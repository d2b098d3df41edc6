import Mathlib.Data.Finset.Card
import Lwip.Verify.Core.LoopFirst

/-! What becomes of the threads of a stack. Every frame that the interface received is still there,
in the queue of the loop or before it (`frames_kept`). The loop that `start` runs is an event loop
by itself (`reaches`), so it ends only after some `stop` has stored false, and the receive thread is
joined only by another call than that (`stops_needed`). Unless the notification of the `stop` is
lost, `start` then comes back; with one `stop` the receive thread is left joinable
(`returns_unjoined`). -/

namespace Lwip

open EventLoop (Condition)
open EventLoop.Condition (Stoppable Ending Sound)
open EventLoop.WaitPc (begun_of_notify)

namespace StackManager

/-- The call has stored false in the flag of the loop. -/
def StopPc.stored : StopPc → Bool
  | .notifying | .logging | .returned => true
  | .enter | .joinable | .joining | .stopping => false

/-- The call is past `join()`. -/
def StopPc.past : StopPc → Bool
  | .stopping | .notifying | .logging | .returned => true
  | .enter | .joinable | .joining => false

namespace Threads

variable {τ : Type} {t t' : Threads τ} {e : Event τ} {es : List (Event τ)}

/-! ## Frames -/

def Event.arrived : Event τ → Option Bytes
  | .arrive data => some data
  | _ => none

/-- The frame that the receive thread has read and not posted. -/
def inHand (t : Threads τ) : List Bytes :=
  match t.receiveThread with
  | some (.posting data) => [data]
  | _ => []

/-- The frames in the queue. -/
def queued (t : Threads τ) : List Bytes :=
  t.eventLoop.loop.tasks.filterMap fun
    | .processIncomingPacket data => some data
    | .other _ => none

/-- The frames that are anywhere. -/
def frames (t : Threads τ) : List Bytes := t.queued ++ t.inHand ++ t.inbox

theorem queued_nil (h : LoopFirst t) (absent : t.receiveThread = none) : t.queued = [] := by
  rw [queued, List.filterMap_eq_nil_iff]
  intro task mem
  cases task with
  | processIncomingPacket data => exact absurd mem (h.posted absent data)
  | other => rfl

theorem Move.frames (h : LoopFirst t) (move : Move t e t') :
    t'.frames = t.frames ++ [e].filterMap Event.arrived := by
  have same (eq : t'.frames = t.frames) (none : e.arrived = none) :
      t'.frames = t.frames ++ [e].filterMap Event.arrived := by
    rw [eq, List.filterMap_cons_none none, List.filterMap_nil, List.append_nil]
  cases move with
  | loop pc own step =>
    have absent := h.not_created pc
    refine same ?_ rfl
    rw [Threads.frames, Threads.frames, queued_nil h absent,
      queued_nil (h.move (.loop pc own step)) absent]
    rfl
  | create pc =>
    refine same ?_ rfl
    rw [Threads.frames, Threads.frames, inHand, inHand, h.not_created pc]
    rfl
  | check pc =>
    refine same ?_ rfl
    cases running : t.running <;> simp [Threads.frames, inHand, queued, pc]
  | idle pc | joined _ pc =>
    refine same ?_ rfl
    rw [Threads.frames, Threads.frames, inHand, inHand, pc]
    rfl
  | read pc held => exact same (by simp [Threads.frames, inHand, queued, pc, held]) rfl
  | posted pc => exact same (by simp [Threads.frames, inHand, queued, Condition.post, pc]) rfl
  | post => exact same (by simp [Threads.frames, inHand, queued, Condition.post]) rfl
  | arrive data => simp [Threads.frames, inHand, queued, Event.arrived]
  | begin | assign | leave | call | skip | join | store | notify | stopped | wake =>
    exact same rfl rfl

/-- The calls of `stop` that are about to notify are as many as the loop counts. -/
def Counted (t : Threads τ) : Prop :=
  ∃ s : Finset Nat, (∀ i, i ∈ s ↔ t.stoppers i = .notifying) ∧ s.card = t.eventLoop.stopping

theorem Counted.keep (h : Counted t) (same : t'.stoppers = t.stoppers)
    (count : t'.eventLoop.stopping = t.eventLoop.stopping) : Counted t' := by
  obtain ⟨s, mem, card⟩ := h
  exact ⟨s, by rwa [same], by rw [count, card]⟩

theorem update_eq_iff {i k : Nat} {pc pc' : StopPc} {stoppers : Nat → StopPc} :
    Function.update stoppers i pc k = pc' ↔ (k = i ∧ pc = pc') ∨ (k ≠ i ∧ stoppers k = pc') := by
  by_cases eq : k = i
  · subst eq
    simp
  · simp [eq]

/-- A call of `stop` moves on elsewhere. -/
theorem Counted.set {i : Nat} {pc : StopPc} (h : Counted t) (out : t.stoppers i ≠ .notifying)
    (ne : pc ≠ .notifying) (same : t'.stoppers = Function.update t.stoppers i pc)
    (count : t'.eventLoop.stopping = t.eventLoop.stopping) : Counted t' := by
  obtain ⟨s, mem, card⟩ := h
  refine ⟨s, fun k => ?_, by rw [count, card]⟩
  rw [same, update_eq_iff, mem]
  refine ⟨fun at_ => .inr ⟨fun eq => out (eq ▸ at_), at_⟩, ?_⟩
  rintro (⟨-, eq⟩ | ⟨-, at_⟩)
  · exact absurd eq ne
  · exact at_

theorem Counted.pos {i : Nat} (h : Counted t) (at_ : t.stoppers i = .notifying) :
    0 < t.eventLoop.stopping := by
  obtain ⟨s, mem, card⟩ := h
  rw [← card]
  exact Finset.card_pos.mpr ⟨i, (mem i).mpr at_⟩

theorem Counted.exists (h : Counted t) (pos : 0 < t.eventLoop.stopping) :
    ∃ i, t.stoppers i = .notifying := by
  obtain ⟨s, mem, card⟩ := h
  obtain ⟨i, hi⟩ := Finset.card_pos.mp (card ▸ pos)
  exact ⟨i, (mem i).mp hi⟩

theorem Counted.move (h : Counted t) (move : Move t e t') : Counted t' := by
  cases move with
  | loop pc own step => exact h.keep rfl (step.stopping own)
  | begin | create | assign | leave | check | idle | read | posted | post | arrive | wake =>
    exact h.keep rfl rfl
  | call pc | skip pc | join pc | joined pc | stopped pc =>
    exact h.set (by simp [pc]) (by simp) rfl rfl
  | @store i pc =>
    obtain ⟨s, mem, card⟩ := h
    have out : i ∉ s := by simp [mem, pc]
    refine ⟨insert i s, fun k => ?_, by rw [Finset.card_insert_of_notMem out, card]; rfl⟩
    rw [setStopper, update_eq_iff, Finset.mem_insert, mem]
    by_cases eq : k = i <;> simp [eq]
  | @notify i pc =>
    obtain ⟨s, mem, card⟩ := h
    refine ⟨s.erase i, fun k => ?_, by rw [Finset.card_erase_of_mem ((mem i).mpr pc), card]; rfl⟩
    rw [setStopper, update_eq_iff, Finset.mem_erase, mem]
    by_cases eq : k = i <;> simp [eq]

/-- What a step does to the loop is a step of the loop, or nothing. -/
theorem Move.eventLoop (counted : Counted t) (move : Move t e t') :
    t'.eventLoop = t.eventLoop ∨ ∃ e', t.eventLoop.Step e' t'.eventLoop := by
  cases move with
  | loop pc own step => exact .inr ⟨_, step⟩
  | posted pc free | post free => exact .inr ⟨_, .post free⟩
  | store => exact .inr ⟨_, .store⟩
  | notify pc => exact .inr ⟨_, .notifyAll (counted.pos pc)⟩
  | wake pc => exact .inr ⟨_, .wake pc⟩
  | _ => exact .inl rfl

/-- In every run of the threads the loop goes through a run of its own. -/
theorem reaches (run : Run Step {} es t) :
    Counted t ∧ ∃ es', Run Condition.Step {} es' t.eventLoop := by
  refine run.invariant (fun t => Counted t ∧ ∃ es', Run Condition.Step {} es' t.eventLoop)
    ⟨⟨∅, by simp, rfl⟩, [], .nil⟩ ?_
  rintro t e t' ⟨counted, es', run'⟩ step
  refine ⟨counted.move step.move, ?_⟩
  rcases step.move.eventLoop counted with same | ⟨e', step'⟩
  · exact ⟨es', same ▸ run'⟩
  · exact ⟨_, run'.snoc step'⟩

/-! ## The end of the threads -/

/-- Only its own steps move a call of `stop`. -/
theorem Move.stoppers (move : Move t e t') (j : Nat) :
    t'.stoppers j = t.stoppers j ∨ e = .stop j := by
  have other {i : Nat} {pc : StopPc} : Function.update t.stoppers i pc j = t.stoppers j ∨
      (Event.stop i : Event τ) = .stop j := by
    by_cases eq : j = i
    · exact .inr (by rw [eq])
    · exact .inl (Function.update_of_ne eq ..)
  cases move with
  | call | skip | join | joined | store | notify | stopped => exact other
  | _ => exact .inl rfl

theorem called_stop (run : Run Step {} es t) {j : Nat} (inside : t.stoppers j ≠ .enter) :
    .stop j ∈ es := by
  refine run.history_invariant (fun es t => ∀ j, t.stoppers j ≠ .enter → Event.stop j ∈ es)
    (fun _ out => absurd rfl out) (fun es t e t' ih step j inside => ?_) j inside
  rcases step.move.stoppers j with same | rfl
  · exact List.mem_append_left _ (ih j (same ▸ inside))
  · exact List.mem_append_right _ (List.mem_singleton_self _)

def Stored (t : Threads τ) : Prop := ∃ i, (t.stoppers i).stored

def StoredBeside (t : Threads τ) (j : Nat) : Prop := ∃ i, i ≠ j ∧ (t.stoppers i).stored

/-- A thread that is joined has been joined by a second call of `stop`. -/
def JoinedTwice (t : Threads τ) : Prop := ∃ j, t.StoredBeside j ∧ (t.stoppers j).past

/-- What takes one call of `stop` and what takes two. -/
structure Stops (t : Threads τ) : Prop where
  flag : t.eventLoop.pc ≠ .enter → t.eventLoop.loop.running = false → t.Stored
  joining : ∀ j, t.stoppers j = .joining → t.StoredBeside j
  joined : t.receiveThread = some .joined → t.JoinedTwice

/-- The calls of `stop` are where they were. -/
theorem Stops.keep (h : Stops t) (same : t'.stoppers = t.stoppers)
    (flag : t'.eventLoop.pc ≠ .enter → t'.eventLoop.loop.running = false →
      t.eventLoop.pc ≠ .enter ∧ t.eventLoop.loop.running = false)
    (joined : t'.receiveThread = some .joined → t.receiveThread = some .joined) : Stops t' := by
  refine ⟨?_, ?_, ?_⟩ <;> simp only [Stored, StoredBeside, JoinedTwice, same]
  · exact fun begun off => h.flag (flag begun off).1 (flag begun off).2
  · exact h.joining
  · exact fun held => h.joined (joined held)

/-- A step of one call of `stop`; what it has stored or joined stays so. -/
theorem Stops.set {i : Nat} {pc : StopPc} (h : Stops t)
    (same : t'.stoppers = Function.update t.stoppers i pc)
    (stays : (t.stoppers i).stored → pc.stored) (past : (t.stoppers i).past → pc.past)
    (flag : t'.eventLoop.pc ≠ .enter → t'.eventLoop.loop.running = false →
      t.eventLoop.pc ≠ .enter ∧ t.eventLoop.loop.running = false ∨ pc.stored)
    (joining : pc = .joining → t.StoredBeside i)
    (joined : t'.receiveThread = some .joined → t.receiveThread = some .joined ∨
      t.stoppers i = .joining ∧ pc.past) : Stops t' := by
  have at_i : t'.stoppers i = pc := by rw [same, Function.update_self]
  have other {k : Nat} (ne : k ≠ i) : t'.stoppers k = t.stoppers k := by
    rw [same, Function.update_of_ne ne]
  have stored {k : Nat} (there : (t.stoppers k).stored) : (t'.stoppers k).stored := by
    by_cases eq : k = i
    · subst eq
      rw [at_i]
      exact stays there
    · rwa [other eq]
  have beside (j : Nat) : t.StoredBeside j → t'.StoredBeside j :=
    fun ⟨k, ne, there⟩ => ⟨k, ne, stored there⟩
  refine ⟨fun begun off => ?_, fun j at_j => ?_, fun held => ?_⟩
  · rcases flag begun off with before | new
    · obtain ⟨k, there⟩ := h.flag before.1 before.2
      exact ⟨k, stored there⟩
    · exact ⟨i, by rwa [at_i]⟩
  · by_cases eq : j = i
    · subst eq
      exact beside j (joining (at_i.symm.trans at_j))
    · exact beside j (h.joining j ((other eq).symm.trans at_j))
  · rcases joined held with before | ⟨at_joining, new⟩
    · obtain ⟨j, besides, at_j⟩ := h.joined before
      refine ⟨j, beside j besides, ?_⟩
      by_cases eq : j = i
      · subst eq
        rw [at_i]
        exact past at_j
      · rwa [other eq]
    · exact ⟨i, beside i (h.joining i at_joining), by rwa [at_i]⟩

theorem Stops.move (h : Stops t) (first : LoopFirst t) (sound : Sound t.eventLoop)
    (move : Move t e t') : Stops t' := by
  cases move with
  | loop pc own step => exact h.keep rfl (fun _ off => step.flag own off) id
  | begin | assign | leave | arrive => exact h.keep rfl .intro id
  | create | idle | read => exact h.keep rfl .intro (by simp)
  | check =>
    refine h.keep rfl .intro fun eq => ?_
    dsimp only at eq
    split at eq <;> cases eq
  | posted => exact h.keep rfl (fun begun off => ⟨begun_of_notify begun, off⟩) (by simp)
  | post => exact h.keep rfl (fun begun off => ⟨begun_of_notify begun, off⟩) id
  | wake pc => exact h.keep rfl (fun _ off => ⟨by simp [pc], off⟩) id
  | call pc | skip pc =>
    exact h.set rfl (by simp [pc, StopPc.stored]) (by simp [pc, StopPc.past])
      (fun begun off => .inl ⟨begun, off⟩) (by simp) .inl
  | @join i pc held =>
    refine h.set rfl (by simp [pc, StopPc.stored]) (by simp [pc, StopPc.past])
      (fun begun off => .inl ⟨begun, off⟩) (fun _ => ?_) .inl
    -- there is a thread to join, so the loop is over and some call has stored false
    have there : t.receiveThread.isSome := by
      by_contra absent
      rw [joinable, Option.not_isSome_iff_eq_none.mp absent] at held
      cases held
    have ended := first.ended (first.created ▸ there)
    obtain ⟨k, stored⟩ := h.flag (by simp [ended]) (sound.returned ended)
    exact ⟨k, fun eq => by simp [eq, pc, StopPc.stored] at stored, stored⟩
  | joined pc =>
    exact h.set rfl (by simp [pc, StopPc.stored]) (by simp [pc, StopPc.past])
      (fun begun off => .inl ⟨begun, off⟩) (by simp) fun _ => .inr ⟨pc, rfl⟩
  | store pc =>
    exact h.set rfl (fun _ => rfl) (fun _ => rfl) (fun _ _ => .inr rfl) (by simp) .inl
  | notify pc =>
    exact h.set rfl (fun _ => rfl) (fun _ => rfl)
      (fun begun off => .inl ⟨begun_of_notify begun, off⟩) (by simp) .inl
  | stopped pc =>
    exact h.set rfl (fun _ => rfl) (fun _ => rfl) (fun begun off => .inl ⟨begun, off⟩) (by simp)
      .inl

theorem sound_run (run : Run Step {} es t) : Sound t.eventLoop := by
  obtain ⟨-, es', run'⟩ := reaches run
  exact Sound.run run'

theorem Stops.run (run : Run Step {} es t) : Stops t := by
  induction run with
  | nil => exact ⟨fun begun => absurd rfl begun, by simp, by simp⟩
  | snoc run step ih => exact ih.move (LoopFirst.run run) (sound_run run) step.move

/-- `event_loop_.run()` comes back in `start` only after some call of `stop` has stored false in the
flag of the loop; and it takes a second call to join the receive thread. -/
theorem stops_needed (run : Run Step {} es t) :
    (t.starter.past → ∃ i, .stop i ∈ es ∧ (t.stoppers i).stored) ∧
    (t.receiveThread = some .joined →
      ∃ i j, i ≠ j ∧ (t.stoppers i).stored ∧ (t.stoppers j).past) := by
  have stops := Stops.run run
  refine ⟨fun past => ?_, fun held => ?_⟩
  · have ended := (LoopFirst.run run).ended past
    obtain ⟨i, stored⟩ := stops.flag (by simp [ended]) ((sound_run run).returned ended)
    exact ⟨i, called_stop run fun eq => by simp [eq, StopPc.stored] at stored, stored⟩
  · obtain ⟨j, ⟨i, ne, stored⟩, past⟩ := stops.joined held
    exact ⟨i, j, ne, stored, past⟩

/-- One call ends the loop before it notifies, and another joins the thread. -/
theorem stops_needed_joined : ∃ t : Threads Unit,
    Run Step {} [.start, .start, .stop 0, .stop 0, .stop 0, .start, .start, .start, .start,
      .receive, .stop 1, .stop 1, .stop 1] t ∧ t.stoppers 0 = .notifying ∧
    (∃ i, (t.stoppers i).stored) ∧
    ∃ i j, i ≠ j ∧ (t.stoppers i).stored ∧ (t.stoppers j).past := by
  have run : Run Step ({} : Threads Unit) [.start, .start, .stop 0, .stop 0, .stop 0, .start,
    .start, .start, .start, .receive, .stop 1, .stop 1, .stop 1] _ := Run.of_foldlM rfl
  obtain ⟨i, -, stored⟩ := (stops_needed run).1 rfl
  exact ⟨_, run, rfl, ⟨i, stored⟩, (stops_needed run).2 rfl⟩

/-- The receive thread stays once it is there. -/
theorem Move.there (move : Move t e t') (there : t.receiveThread.isSome) :
    t'.receiveThread.isSome := by
  cases move with
  | create | check | idle | read | posted | joined => rfl
  | _ => exact there

/-- A step of the thread in `start`, or the notification of a `stop`. -/
def EndStep (t : Threads τ) (e : Event τ) (t' : Threads τ) : Prop :=
  Step t e t' ∧ (e = .start ∨ ∃ i, e = .stop i ∧ t.stoppers i = .notifying)

/-- How far the thread in `start` is from its end when the flag of the loop is false. -/
def toReturn (t : Threads τ) : Nat :=
  match t.starter with
  | .loop => t.eventLoop.distance + 3
  | .assigning => 2
  | .logging => 1
  | .enter | .returned => 0

/-- The loop has begun and can still end, or has ended by the steps of the thread in `start`. -/
structure Leaving (t : Threads τ) : Prop where
  counted : Counted t
  first : LoopFirst t
  loop : Stoppable t.eventLoop
  begun : t.starter ≠ .enter
  created : t.starter.past → t.receiveThread = some .head

/-- A step towards the end of `run` is one of the thread in `start` or of a call of `stop`. -/
theorem endStep_of_ending {c : Condition (Posted τ)} {e : EventLoop.Event (Posted τ)}
    (counted : Counted t) (inside : t.starter = .loop) (step : Ending t.eventLoop e c) :
    ∃ e' t', EndStep t e' t' ∧ t'.starter = .loop ∧ t'.eventLoop = c := by
  obtain ⟨step, which⟩ := step
  cases step with
  | run run =>
    refine ⟨.start, { t with eventLoop := c }, ⟨?_, .inl rfl⟩, inside, rfl⟩
    rw [Step, exec, startStep, inside]
    dsimp only
    split
    · rename_i pc
      rw [Condition.runStep, pc] at run
      cases run
    · rename_i pc
      rw [Condition.runStep, pc] at run
      cases run
    · rw [run]
      rfl
  | call pc =>
    refine ⟨.start, { t with eventLoop := { t.eventLoop with pc := .head } }, ⟨?_, .inl rfl⟩,
      inside, rfl⟩
    rw [Step, exec, startStep, inside]
    dsimp only
    rw [pc]
  | notifyAll pos =>
    obtain ⟨i, pc⟩ := counted.exists pos
    refine ⟨.stop i, { t with eventLoop := t.eventLoop.notifyAll }.setStopper i .logging,
      ⟨?_, .inr ⟨i, rfl, pc⟩⟩, inside, rfl⟩
    rw [Step, exec, stopStep, pc]
  | again | post | store | wake => rcases which with which | which <;> cases which

theorem Leaving.go (h : Leaving t) (more : t.toReturn ≠ 0) :
    ∃ e t', EndStep t e t' ∧ Leaving t' ∧ t'.toReturn < t.toReturn := by
  -- what a step keeps
  have keep {e : Event τ} {t' : Threads τ} (step : EndStep t e t') (loop : Stoppable t'.eventLoop)
      (begun : t'.starter ≠ .enter)
      (created : t'.starter.past → t'.receiveThread = some .head) : Leaving t' :=
    ⟨h.counted.move step.1.move, h.first.move step.1.move, loop, begun, created⟩
  cases inside : t.starter with
  | enter => exact absurd inside h.begun
  | loop =>
    by_cases far : t.eventLoop.distance = 0
    · have ended : t.eventLoop.pc = .returned := h.loop.ended far
      have step : EndStep t .start
          { t with receiveThread := some .head, starter := .assigning } := by
        refine ⟨?_, .inl rfl⟩
        rw [Step, exec, startStep, inside]
        dsimp only
        rw [ended]
      refine ⟨_, _, step, keep step h.loop (by simp) fun _ => rfl, ?_⟩
      simp [toReturn, inside]
    · obtain ⟨e, c, ending, loop, nearer⟩ := h.loop.near far
      obtain ⟨e', t', step, inside', rfl⟩ := endStep_of_ending h.counted inside ending
      refine ⟨e', t', step, keep step loop (by simp [inside']) fun past => ?_, ?_⟩
      · rw [inside'] at past
        cases past
      · rw [toReturn, toReturn, inside, inside']
        exact Nat.add_lt_add_right nearer 3
  | assigning =>
    have step : EndStep t .start { t with starter := .logging } := by
      refine ⟨?_, .inl rfl⟩
      rw [Step, exec, startStep, inside]
    refine ⟨_, _, step, keep step h.loop (by simp) fun _ => h.created ?_, ?_⟩
    · rw [inside]
      rfl
    · simp [toReturn, inside]
  | logging =>
    have step : EndStep t .start { t with starter := .returned } := by
      refine ⟨?_, .inl rfl⟩
      rw [Step, exec, startStep, inside]
    refine ⟨_, _, step, keep step h.loop (by simp) fun _ => h.created ?_, ?_⟩
    · rw [inside]
      rfl
    · simp [toReturn, inside]
  | returned => simp [toReturn, inside] at more

theorem Leaving.returned (h : Leaving t) (done : t.toReturn = 0) : t.starter = .returned := by
  rw [toReturn] at done
  cases pc : t.starter with
  | enter => exact absurd pc h.begun
  | returned => rfl
  | loop | assigning | logging => simp [pc] at done

end Threads

end StackManager

end Lwip
