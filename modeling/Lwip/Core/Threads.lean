import Mathlib.Logic.Function.Basic
import Lwip.Core.EventLoop
import Lwip.Std.Endian

/-! The threads that `StackManager::start` and `StackManager::stop` of `core/stack_manager.cpp` make
of an event loop: one in `start`, the receive thread that it creates, and any number of calls of
`stop`, by other threads or by a task. Steps are as fine as those of the loop. What a task does to
the stack is left out. -/

namespace Lwip

namespace StackManager

/-- The tasks of the stack: what the receive thread posts and what others do. -/
inductive Posted (τ : Type) where
  | processIncomingPacket (data : Bytes)
  | other (task : τ)

/-- Where the thread that calls `start` is. -/
inductive StartPc where
  | enter
  /-- In `event_loop_.run()`. -/
  | loop
  /-- The receive thread runs, and `receive_thread_` does not hold it yet. -/
  | assigning
  /-- Before `LOG_INFO`. -/
  | logging
  | returned

/-- `event_loop_.run()` is over. -/
def StartPc.past : StartPc → Bool
  | .enter | .loop => false
  | .assigning | .logging | .returned => true

/-- Where the receive thread is. -/
inductive ReceivePc where
  /-- At the condition of its loop. -/
  | head
  /-- In `interface_->receive_frame`. -/
  | receiving
  /-- Before `event_loop_.post`. -/
  | posting (data : Bytes)
  | finished
  | joined

/-- Where a call of `stop` is. -/
inductive StopPc where
  | enter
  /-- Before `receive_thread_.joinable()`. -/
  | joinable
  /-- In `receive_thread_.join()`. -/
  | joining
  /-- Before the store of `event_loop_.stop()`. -/
  | stopping
  /-- Before its `notify_all`. -/
  | notifying
  /-- Before `LOG_INFO`. -/
  | logging
  | returned

/-- The threads and what they share; `receiveThread` is `none` until the thread is created. -/
structure Threads (τ : Type) where
  running : Bool := false
  eventLoop : EventLoop.Condition (Posted τ) := {}
  starter : StartPc := .enter
  receiveThread : Option ReceivePc := none
  stoppers : Nat → StopPc := fun _ => .enter
  /-- The frames that the interface holds. -/
  inbox : List Bytes := []

namespace Threads

variable {τ : Type}

/-- A step of the thread in `start`, which is also the one in `run`. -/
def startStep (t : Threads τ) : Option (Threads τ) :=
  match t.starter with
  | .enter => some { t with running := true, starter := .loop }
  | .loop =>
    match t.eventLoop.pc with
    | .executing _ => some { t with eventLoop := { t.eventLoop with pc := .head } }
    | .returned => some { t with receiveThread := some .head, starter := .assigning }
    | _ => t.eventLoop.runStep.map fun eventLoop => { t with eventLoop }
  | .assigning => some { t with starter := .logging }
  | .logging => some { t with starter := .returned }
  | .returned => none

/-- A call of `event_loop_.post`, which has to wait for the mutex. -/
def post (t : Threads τ) (task : Posted τ) : Option (Threads τ) :=
  if t.eventLoop.pc.holdsMutex then none else some { t with eventLoop := t.eventLoop.post task }

/-- A step of the receive thread. Without a frame `receive_frame` returns false. -/
def receiveStep (t : Threads τ) : Option (Threads τ) :=
  match t.receiveThread with
  | some .head =>
    some { t with receiveThread := some (if t.running then .receiving else .finished) }
  | some .receiving =>
    match t.inbox with
    | [] => some { t with receiveThread := some .head }
    | data :: inbox => some { t with receiveThread := some (.posting data), inbox }
  | some (.posting data) =>
    (t.post (.processIncomingPacket data)).map fun t => { t with receiveThread := some .head }
  | _ => none

/-- `receive_thread_.joinable()` -/
def joinable (t : Threads τ) : Bool :=
  match t.receiveThread, t.starter with
  | none, _ | some .joined, _ | some _, .assigning => false
  | some _, _ => true

def setStopper (t : Threads τ) (i : Nat) (pc : StopPc) : Threads τ :=
  { t with stoppers := Function.update t.stoppers i pc }

/-- A step of the `i`-th call of `stop`. -/
def stopStep (t : Threads τ) (i : Nat) : Option (Threads τ) :=
  match t.stoppers i with
  | .enter => some ({ t with running := false }.setStopper i .joinable)
  | .joinable => some (t.setStopper i (if t.joinable then .joining else .stopping))
  | .joining =>
    match t.receiveThread with
    | some .finished => some ({ t with receiveThread := some .joined }.setStopper i .stopping)
    | _ => none
  | .stopping => some ({ t with eventLoop := t.eventLoop.store }.setStopper i .notifying)
  | .notifying => some ({ t with eventLoop := t.eventLoop.notifyAll }.setStopper i .logging)
  | .logging => some (t.setStopper i .returned)
  | .returned => none

/-- Whose step it is: one of the threads above, some thread that posts a task, or the network; or
the thread in `run` wakes up for no reason. -/
inductive Event (τ : Type) where
  | start
  | receive
  | stop (i : Nat)
  | post (task : τ)
  | arrive (data : Bytes)
  | wake

def exec (t : Threads τ) : Event τ → Option (Threads τ)
  | .start => t.startStep
  | .receive => t.receiveStep
  | .stop i => t.stopStep i
  | .post task => t.post (.other task)
  | .arrive data => some { t with inbox := t.inbox ++ [data] }
  | .wake =>
    match t.eventLoop.pc with
    | .asleep => some { t with eventLoop := { t.eventLoop with pc := .locking } }
    | _ => none

end Threads

end StackManager

end Lwip
