import Mathlib.Init

/-! `EventLoop` of `core/event_loop.hpp` and `core/event_loop.cpp`, for one thread in `run` and any
number in `post` and `stop`. Each access to `running_` is a step of its own, and so is what happens
under `mutex_` between two of them. `condition_.wait` is the loop around a plain wait that it stands
for, with spurious wake-ups. `post` is one critical section; `stop` takes no mutex and is two steps,
the store and the notification. -/

namespace Lwip

/-- The queue and the flag of the loop; `τ` is the type of the tasks. -/
structure EventLoop (τ : Type) where
  tasks : List τ := []
  running : Bool := false

namespace EventLoop

variable {τ : Type}

/-- Where the thread in `run` is. -/
inductive WaitPc (τ : Type) where
  | enter
  /-- At the condition of the loop. -/
  | head
  /-- Before it has the mutex, also when it is woken. -/
  | locking
  /-- Before it looks at what it waits for. -/
  | locked
  /-- It has seen that it must wait, and still has the mutex. -/
  | drowsy
  | asleep
  /-- `condition_.wait` has returned, and `running_` is tested again. -/
  | passed
  /-- The flag was set; before `front` and `pop`. -/
  | taking
  /-- In `task()`. -/
  | executing (task : τ)
  | returned
  /-- It has called `front` on an empty queue. -/
  | broken

namespace WaitPc

def holdsMutex : WaitPc τ → Bool
  | .locked | .drowsy | .passed | .taking => true
  | _ => false

/-- What `notify_one` and `notify_all` do to the thread. -/
def notify : WaitPc τ → WaitPc τ
  | .asleep => .locking
  | pc => pc

end WaitPc

/-- The loop, the thread in `run`, and the number of calls of `stop` that have stored false and are
about to notify. -/
structure Condition (τ : Type) where
  loop : EventLoop τ := {}
  pc : WaitPc τ := .enter
  stopping : Nat := 0

namespace Condition

/-- A step of the thread in `run`; `none` where it sleeps, executes a task or has returned. -/
def runStep (c : Condition τ) : Option (Condition τ) :=
  match c.pc with
  | .enter => some { c with loop := { c.loop with running := true }, pc := .head }
  | .head => some { c with pc := if c.loop.running then .locking else .returned }
  | .locking => some { c with pc := .locked }
  | .locked =>
    some { c with pc := if !c.loop.tasks.isEmpty || !c.loop.running then .passed else .drowsy }
  | .drowsy => some { c with pc := .asleep }
  | .passed => some { c with pc := if !c.loop.running then .returned else .taking }
  | .taking =>
    match c.loop.tasks with
    | [] => some { c with pc := .broken }
    | task :: tasks => some { c with loop := { c.loop with tasks }, pc := .executing task }
  | .asleep | .executing _ | .returned | .broken => none

def post (c : Condition τ) (task : τ) : Condition τ :=
  { c with loop := { c.loop with tasks := c.loop.tasks ++ [task] }, pc := c.pc.notify }

/-- The first half of `stop`. -/
def store (c : Condition τ) : Condition τ :=
  { c with loop := { c.loop with running := false }, stopping := c.stopping + 1 }

/-- The second half of `stop`. -/
def notifyAll (c : Condition τ) : Condition τ :=
  { c with pc := c.pc.notify, stopping := c.stopping - 1 }

end Condition

/-- What a thread does. -/
inductive Event (τ : Type) where
  | run
  /-- `task()` returns. -/
  | call (task : τ)
  /-- `run` is called again after it has returned. -/
  | again
  | post (task : τ)
  | store
  | notifyAll
  /-- The thread in `run` wakes up for no reason. -/
  | wake

inductive Condition.Step : Condition τ → Event τ → Condition τ → Prop
  | run {c c'} (h : c.runStep = some c') : Step c .run c'
  | call {c task} (h : c.pc = .executing task) : Step c (.call task) { c with pc := .head }
  | again {c} (h : c.pc = .returned) : Step c .again { c with pc := .enter }
  | post {c task} (h : c.pc.holdsMutex = false) : Step c (.post task) (c.post task)
  | store {c} : Step c .store c.store
  | notifyAll {c} (h : 0 < c.stopping) : Step c .notifyAll c.notifyAll
  | wake {c} (h : c.pc = .asleep) : Step c .wake { c with pc := .locking }

end EventLoop

end Lwip
