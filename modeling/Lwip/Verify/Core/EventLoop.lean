import Lwip.Core.EventLoop
import Lwip.Std.Ranking

/-! The event loop with its mutex and its condition variable. It is a loop that waits for a task and
takes it in one step (`simulated`), so tasks are called once each and in the order of their posts.
The mutex keeps every post: the thread sleeps only over an empty queue. It does not keep a `stop`,
which takes no mutex: this may come after the last test of the flag, and one more task is taken
(`stopped_quiet`), or notify after the last look at the queue, and is lost (`never_lost_iff`). -/

namespace Lwip

namespace EventLoop

variable {τ : Type}

namespace Event

def posted : Event τ → Option τ
  | .post task => some task
  | _ => none

def called : Event τ → Option τ
  | .call task => some task
  | _ => none

/-- What the callers of the loop and its tasks see. -/
def visible : Event τ → Option (Event τ)
  | .run | .notifyAll | .wake => none
  | e => some e

/-- The thread in `run` makes this step of itself. -/
def own : Event τ → Bool
  | .run | .call _ => true
  | _ => false

theorem filterMap_called (es : List (Event τ)) :
    (es.filterMap visible).filterMap called = es.filterMap called := by
  rw [List.filterMap_filterMap]
  congr 1
  funext e
  cases e <;> rfl

theorem filterMap_posted (es : List (Event τ)) :
    (es.filterMap visible).filterMap posted = es.filterMap posted := by
  rw [List.filterMap_filterMap]
  congr 1
  funext e
  cases e <;> rfl

end Event

/-! ## Waiting and taking in one step -/

/-- Where the thread is in a loop without mutex and condition variable. -/
inductive RunPc (τ : Type) where
  | enter
  | head
  | waiting
  | executing (task : τ)
  | returned

/-- Such a loop. Its thread may wake whenever there is something to do: what is said here is which
tasks are called, not that they are. -/
inductive Step : EventLoop τ × RunPc τ → Event τ → EventLoop τ × RunPc τ → Prop
  | enter {l} : Step (l, .enter) .run ({ l with running := true }, .head)
  | round {l} (running : l.running = true) : Step (l, .head) .run (l, .waiting)
  | left {l} (stopped : l.running = false) : Step (l, .head) .run (l, .returned)
  | leave {l} (stopped : l.running = false) : Step (l, .waiting) .run (l, .returned)
  | take {l task tasks} (running : l.running = true) (front : l.tasks = task :: tasks) :
    Step (l, .waiting) .run ({ l with tasks }, .executing task)
  | call {l task} : Step (l, .executing task) (.call task) (l, .head)
  | again {l} : Step (l, .returned) .again (l, .enter)
  | post {l pc task} : Step (l, pc) (.post task) ({ l with tasks := l.tasks ++ [task] }, pc)
  | stop {l pc} : Step (l, pc) .store ({ l with running := false }, pc)

/-- The task that has been taken and has not returned. -/
def RunPc.taken : RunPc τ → List τ
  | .executing task => [task]
  | _ => []

theorem called_posted {es : List (Event τ)} {o : EventLoop τ × RunPc τ}
    (run : Run Step ({}, .enter) es o) :
    es.filterMap Event.called ++ o.2.taken ++ o.1.tasks = es.filterMap Event.posted := by
  refine run.history_invariant (fun es o =>
    es.filterMap Event.called ++ o.2.taken ++ o.1.tasks = es.filterMap Event.posted) rfl ?_
  intro es o e o' ih step
  rw [List.filterMap_append, List.filterMap_append, ← ih]
  simp only [List.filterMap_cons, List.filterMap_nil]
  cases step with
  | take _ front => simp [Event.called, Event.posted, RunPc.taken, front]
  | _ => simp [Event.called, Event.posted, RunPc.taken]

/-! ## What the mutex keeps -/

theorem WaitPc.begun_of_notify {pc : WaitPc τ} (h : pc.notify ≠ .enter) : pc ≠ .enter := by
  rintro rfl
  exact h rfl

namespace Condition

variable {c c' : Condition τ} {es : List (Event τ)}

/-- The steps of the thread in `run`. -/
inductive Move : Condition τ → Condition τ → Prop
  | enter {c : Condition τ} (pc : c.pc = .enter) :
    Move c { c with loop := { c.loop with running := true }, pc := .head }
  | round {c : Condition τ} (pc : c.pc = .head) (running : c.loop.running = true) :
    Move c { c with pc := .locking }
  | left {c : Condition τ} (pc : c.pc = .head) (stopped : c.loop.running = false) :
    Move c { c with pc := .returned }
  | lock {c : Condition τ} (pc : c.pc = .locking) : Move c { c with pc := .locked }
  | pass {c : Condition τ} (pc : c.pc = .locked)
    (ready : c.loop.running = true → c.loop.tasks ≠ []) :
    Move c { c with pc := .passed }
  | tire {c : Condition τ} (pc : c.pc = .locked) (empty : c.loop.tasks = [])
    (running : c.loop.running = true) :
    Move c { c with pc := .drowsy }
  | sleep {c : Condition τ} (pc : c.pc = .drowsy) : Move c { c with pc := .asleep }
  | leave {c : Condition τ} (pc : c.pc = .passed) (stopped : c.loop.running = false) :
    Move c { c with pc := .returned }
  | go {c : Condition τ} (pc : c.pc = .passed) (running : c.loop.running = true) :
    Move c { c with pc := .taking }
  | take {c : Condition τ} {task : τ} {tasks : List τ} (pc : c.pc = .taking)
    (front : c.loop.tasks = task :: tasks) :
    Move c { c with loop := { c.loop with tasks }, pc := .executing task }
  | fault {c : Condition τ} (pc : c.pc = .taking) (empty : c.loop.tasks = []) :
    Move c { c with pc := .broken }

theorem move_of_runStep (h : c.runStep = some c') : Move c c' := by
  rw [runStep] at h
  split at h
  case h_1 pc =>
    cases h
    exact .enter pc
  case h_2 pc =>
    cases h
    cases running : c.loop.running with
    | true => exact .round pc running
    | false => exact .left pc running
  case h_3 pc =>
    cases h
    exact .lock pc
  case h_4 pc =>
    cases h
    split
    · rename_i ready
      refine .pass pc fun running nil => ?_
      rw [running, nil] at ready
      cases ready
    · rename_i wait
      rw [Bool.or_eq_true, not_or, Bool.not_eq_true', Bool.not_eq_true', Bool.not_eq_false,
        Bool.not_eq_false, List.isEmpty_iff] at wait
      exact .tire pc wait.1 wait.2
  case h_5 pc =>
    cases h
    exact .sleep pc
  case h_6 pc =>
    cases h
    cases running : c.loop.running with
    | true => exact .go pc running
    | false => exact .leave pc running
  case h_7 pc =>
    split at h
    · rename_i empty
      cases h
      exact .fault pc empty
    · rename_i task tasks front
      cases h
      exact .take pc front
  all_goals cases h

/-- A step of the thread in `run` takes tasks from the queue, and executes what it takes. -/
theorem Step.takes {e : Event τ} (step : Step c e c') (own : e.own) :
    (c'.loop.tasks = c.loop.tasks ∧ ∀ task, c'.pc ≠ .executing task) ∨
    ∃ task, c.loop.tasks = task :: c'.loop.tasks ∧ c'.pc = .executing task := by
  cases step with
  | run step =>
    cases move_of_runStep step with
    | take _ front => exact .inr ⟨_, front, rfl⟩
    | enter | round | left | lock | pass | tire | sleep | leave | go | fault =>
      exact .inl ⟨rfl, by simp⟩
  | call => exact .inl ⟨rfl, by simp⟩
  | again | post | store | notifyAll | wake => cases own

theorem Step.stopping {e : Event τ} (step : Step c e c') (own : e.own) :
    c'.stopping = c.stopping := by
  cases step with
  | run step => cases move_of_runStep step <;> rfl
  | call => rfl
  | again | post | store | notifyAll | wake => cases own

/-- A step of the thread in `run` keeps the flag or sets it. -/
theorem Step.flag {e : Event τ} (step : Step c e c') (own : e.own)
    (off : c'.loop.running = false) : c.pc ≠ .enter ∧ c.loop.running = false := by
  cases step with
  | run step =>
    cases move_of_runStep step with
    | enter => cases off
    | round pc | left pc | lock pc | pass pc | tire pc | sleep pc | leave pc | go pc | take pc
    | fault pc => exact ⟨by simp [pc], off⟩
  | call pc => exact ⟨by simp [pc], off⟩
  | again | post | store | notifyAll | wake => cases own

/-- What the thread in `run` has seen under the mutex still holds. -/
structure Sound (c : Condition τ) : Prop where
  drowsy : c.pc = .drowsy → c.loop.tasks = []
  asleep : c.pc = .asleep → c.loop.tasks = []
  passed : c.pc = .passed → c.loop.running = true → c.loop.tasks ≠ []
  taking : c.pc = .taking → c.loop.tasks ≠ []
  returned : c.pc = .returned → c.loop.running = false
  unbroken : c.pc ≠ .broken

theorem Sound.of_pc (drowsy : c.pc ≠ .drowsy) (asleep : c.pc ≠ .asleep) (passed : c.pc ≠ .passed)
    (taking : c.pc ≠ .taking) (returned : c.pc ≠ .returned) (unbroken : c.pc ≠ .broken) :
    Sound c :=
  ⟨fun eq => absurd eq drowsy, fun eq => absurd eq asleep, fun eq => absurd eq passed,
    fun eq => absurd eq taking, fun eq => absurd eq returned, unbroken⟩

theorem Sound.move (h : Sound c) (move : Move c c') : Sound c' := by
  cases move with
  | tire pc empty =>
    constructor <;> intro eq
    case drowsy => exact empty
    all_goals cases eq
  | sleep pc =>
    constructor <;> intro eq
    case asleep => exact h.drowsy pc
    all_goals cases eq
  | pass pc ready =>
    constructor <;> intro eq
    case passed => exact ready
    all_goals cases eq
  | go pc running =>
    constructor <;> intro eq
    case taking => exact h.passed pc running
    all_goals cases eq
  | left pc stopped | leave pc stopped =>
    constructor <;> intro eq
    case returned => exact stopped
    all_goals cases eq
  | fault pc empty => exact absurd empty (h.taking pc)
  | enter | round | lock | take => apply Sound.of_pc <;> intro eq <;> cases eq

/-- What wakes the thread wakes it from `asleep` only. -/
theorem Sound.notify (h : Sound c) {loop : EventLoop τ} (stopping : Nat)
    (same : loop.running = c.loop.running)
    (tasks : c.pc.holdsMutex → loop.tasks = c.loop.tasks) :
    Sound ⟨loop, c.pc.notify, stopping⟩ := by
  obtain ⟨l, pc, stopping'⟩ := c
  cases pc with
  | drowsy =>
    constructor <;> intro eq
    case drowsy => exact (tasks rfl).trans (h.drowsy rfl)
    all_goals cases eq
  | passed =>
    constructor <;> intro eq
    case passed =>
      rw [same, tasks rfl]
      exact h.passed rfl
    all_goals cases eq
  | taking =>
    constructor <;> intro eq
    case taking =>
      rw [tasks rfl]
      exact h.taking rfl
    all_goals cases eq
  | returned =>
    constructor <;> intro eq
    case returned => exact same.trans (h.returned rfl)
    all_goals cases eq
  | broken => exact absurd rfl h.unbroken
  | enter | head | locking | locked | asleep | executing =>
    apply Sound.of_pc <;> intro eq <;> cases eq

theorem Sound.step {e : Event τ} (h : Sound c) (step : Step c e c') : Sound c' := by
  cases step with
  | run step => exact h.move (move_of_runStep step)
  | call | again | wake => apply Sound.of_pc <;> intro eq <;> cases eq
  | post free =>
    refine h.notify _ rfl fun held => ?_
    rw [free] at held
    cases held
  | store =>
    exact ⟨h.drowsy, h.asleep, fun _ running => (by cases running), h.taking, fun _ => rfl,
      h.unbroken⟩
  | notifyAll => exact h.notify _ rfl fun _ => rfl

theorem Sound.run (run : Run Step {} es c) : Sound c :=
  run.invariant Sound (by apply Sound.of_pc <;> intro eq <;> cases eq)
    fun _ _ _ inv step => inv.step step

/-! ## It is the loop that waits and takes in one step -/

/-- The task that the thread has, or will take whatever becomes of the flag. -/
def claimed (c : Condition τ) : List τ :=
  match c.pc with
  | .taking => c.loop.tasks.take 1
  | .executing task => [task]
  | _ => []

/-- The other tasks in the queue. -/
def unclaimed (c : Condition τ) : List τ :=
  match c.pc with
  | .taking => c.loop.tasks.drop 1
  | _ => c.loop.tasks

def absPc (c : Condition τ) : RunPc τ :=
  match c.pc with
  | .enter => .enter
  | .head => .head
  | .locking | .locked | .drowsy | .asleep | .passed => .waiting
  -- the task is taken when the flag is tested
  | .taking => match c.loop.tasks with
    | [] => .waiting
    | task :: _ => .executing task
  | .executing task => .executing task
  | .returned | .broken => .returned

def abs (c : Condition τ) : EventLoop τ × RunPc τ := ({ c.loop with tasks := c.unclaimed }, c.absPc)

theorem taken_absPc (c : Condition τ) : c.absPc.taken = c.claimed := by
  obtain ⟨⟨tasks, running⟩, pc, stopping⟩ := c
  cases pc with
  | taking => cases tasks <;> rfl
  | _ => rfl

/-- The steps between `locking` and `passed`, and the one that takes the task, are not seen. -/
theorem Move.simulated (h : Sound c) (move : Move c c') :
    c'.abs = c.abs ∨ EventLoop.Step c.abs .run c'.abs := by
  obtain ⟨⟨tasks, running⟩, pc, stopping⟩ := c
  cases move with
  | enter at_ => obtain rfl : pc = _ := at_; exact .inr .enter
  | round at_ running => obtain rfl : pc = _ := at_; exact .inr (.round running)
  | left at_ stopped => obtain rfl : pc = _ := at_; exact .inr (.left stopped)
  | lock at_ | pass at_ | tire at_ | sleep at_ => obtain rfl : pc = _ := at_; exact .inl rfl
  | leave at_ stopped => obtain rfl : pc = _ := at_; exact .inr (.leave stopped)
  | go at_ running =>
    obtain rfl : pc = _ := at_
    cases tasks with
    | nil => exact absurd rfl (h.passed rfl running)
    | cons task tasks => exact .inr (.take running rfl)
  | take at_ front =>
    obtain rfl : pc = _ := at_
    obtain rfl : tasks = _ := front
    exact .inl rfl
  | fault at_ empty => exact absurd empty (h.taking at_)

theorem Sound.simulated (h : Sound c) {e : Event τ} (step : Step c e c') :
    ∃ es, Run EventLoop.Step c.abs es c'.abs ∧
      es.filterMap Event.visible = [e].filterMap Event.visible := by
  obtain ⟨⟨tasks, running⟩, pc, stopping⟩ := c
  cases step with
  | run step =>
    rcases (move_of_runStep step).simulated h with same | step'
    · rw [same]
      exact ⟨[], .nil, rfl⟩
    · exact ⟨_, .single step', rfl⟩
  | call at_ => obtain rfl : pc = _ := at_; exact ⟨_, .single .call, rfl⟩
  | again at_ => obtain rfl : pc = _ := at_; exact ⟨_, .single .again, rfl⟩
  | @post task free =>
    refine ⟨[.post task], .single ?_, rfl⟩
    cases pc <;> first | exact .post | cases free
  | store => exact ⟨[.store], .single .stop, rfl⟩
  | notifyAll =>
    refine ⟨[], ?_, rfl⟩
    cases pc <;> exact .nil
  | wake at_ => obtain rfl : pc = _ := at_; exact ⟨[], .nil, rfl⟩

theorem simulated (run : Run Step {} es c) :
    ∃ es', Run EventLoop.Step ({}, .enter) es' c.abs ∧
      es'.filterMap Event.visible = es.filterMap Event.visible := by
  have keep (c : Condition τ) (e : Event τ) (c' : Condition τ) (o : EventLoop τ × RunPc τ)
      (h : o = c.abs ∧ Sound c) (step : Step c e c') : ∃ es o', Run EventLoop.Step o es o' ∧
        (o' = c'.abs ∧ Sound c') ∧ es.filterMap Event.visible = [e].filterMap Event.visible := by
    obtain ⟨rfl, sound⟩ := h
    obtain ⟨es', run', same⟩ := sound.simulated step
    exact ⟨es', c'.abs, run', ⟨rfl, sound.step step⟩, same⟩
  obtain ⟨es', o, run', ⟨rfl, -⟩, same⟩ := run.simulated _ keep ⟨rfl, Sound.run .nil⟩
  exact ⟨es', run', same⟩

/-! ## No task is lost -/

/-- The task that has left the queue and has not returned. -/
def taken (c : Condition τ) : List τ :=
  match c.pc with
  | .executing task => [task]
  | _ => []

theorem claimed_append_unclaimed (c : Condition τ) :
    c.claimed ++ c.unclaimed = c.taken ++ c.loop.tasks := by
  obtain ⟨⟨tasks, running⟩, pc, stopping⟩ := c
  cases pc with
  | taking => exact List.take_append_drop 1 tasks
  | _ => rfl

/-- Every task posted has returned, or is being executed, or is in the queue, in the order of the
posts; and over tasks in the queue nobody sleeps. -/
theorem calls_posts (run : Run Step {} es c) :
    es.filterMap Event.called ++ c.taken ++ c.loop.tasks = es.filterMap Event.posted ∧
      (c.pc = .asleep → c.loop.tasks = []) ∧ c.pc ≠ .broken := by
  obtain ⟨es', run', same⟩ := simulated run
  have kept := called_posted run'
  rw [← Event.filterMap_called, ← Event.filterMap_posted, same, Event.filterMap_called,
    Event.filterMap_posted, List.append_assoc, abs, taken_absPc, claimed_append_unclaimed,
    ← List.append_assoc] at kept
  exact ⟨kept, (Sound.run run).asleep, (Sound.run run).unbroken⟩

/-- The loop has begun, and a task is posted. -/
def onePosted : Condition Unit := ⟨⟨[()], true⟩, .head, 0⟩

theorem run_onePosted : Run Step {} [.run, .post ()] onePosted :=
  .snoc (.single (.run rfl)) (.post rfl)

theorem calls_posts_onePosted : [] ++ onePosted.taken ++ onePosted.loop.tasks = [()] :=
  (calls_posts run_onePosted).1

/-! ## The thread in `run` alone -/

/-- The tasks that have not returned. -/
def pending (c : Condition τ) : List τ := c.taken ++ c.loop.tasks

/-- How far the thread in `run` is from sleep. -/
def rank (c : Condition τ) : Nat :=
  match c.pc with
  | .enter | .executing _ => 6 * c.loop.tasks.length + 5
  | .head => 6 * c.loop.tasks.length + 4
  | .locking => 6 * c.loop.tasks.length + 3
  | .locked => 6 * c.loop.tasks.length + 2
  | .passed => 6 * c.loop.tasks.length + 1
  | .taking => 6 * c.loop.tasks.length
  | .drowsy => 1
  | .asleep | .returned | .broken => 0

/-- A step of the thread in `run`, and what returns in it is no longer pending. -/
def Own (c : Condition τ) (e : Event τ) (c' : Condition τ) : Prop :=
  Step c e c' ∧ e.own ∧ [e].filterMap Event.called ++ c'.pending = c.pending

theorem Own.of_runStep (h : c.runStep = some c') (same : c'.pending = c.pending) :
    Own c .run c' :=
  ⟨.run h, rfl, same⟩

/-- The flag of the loop is set, or will be at once. -/
def Up (c : Condition τ) : Prop := c.loop.running = true ∨ c.pc = .enter

/-- While the loop runs the thread gets nearer to sleep by its own steps. -/
theorem Sound.own (h : Sound c) (up : Up c) (left : c.rank ≠ 0) :
    ∃ e c', Own c e c' ∧ (Sound c' ∧ Up c') ∧ c'.rank < c.rank := by
  suffices step : ∃ e c', Own c e c' ∧ c'.loop.running = true ∧ c'.rank < c.rank by
    obtain ⟨e, c', own, running', lower⟩ := step
    exact ⟨e, c', own, ⟨h.step own.1, .inl running'⟩, lower⟩
  obtain ⟨⟨tasks, running⟩, pc, stopping⟩ := c
  rcases up with running | at_
  · obtain rfl : _ = true := running
    cases pc with
    | locked =>
      cases tasks with
      | nil => exact ⟨_, _, .of_runStep rfl rfl, rfl, Nat.lt_succ_self _⟩
      | cons task tasks => exact ⟨_, _, .of_runStep rfl rfl, rfl, Nat.lt_succ_self _⟩
    | taking =>
      cases tasks with
      | nil => exact absurd rfl (h.taking rfl)
      | cons task tasks => exact ⟨_, _, .of_runStep rfl rfl, rfl, Nat.lt_succ_self _⟩
    | executing task => exact ⟨.call task, _, ⟨.call rfl, rfl, rfl⟩, rfl, Nat.lt_succ_self _⟩
    | enter | head | locking | passed | drowsy =>
      exact ⟨_, _, .of_runStep rfl rfl, rfl, Nat.lt_succ_self _⟩
    | asleep | returned | broken => exact absurd rfl left
  · obtain rfl : pc = _ := at_
    exact ⟨_, _, .of_runStep rfl rfl, rfl, Nat.lt_succ_self _⟩

/-- From where the flag is set or about to be, the steps of the thread in `run` alone call
everything pending, in the order of the posts, and bring the thread to sleep. No wake-up is missing
for it. -/
theorem drains (run : Run Step {} es c) (up : c.loop.running = true ∨ c.pc = .enter) : ∃ es' c',
    Run Step c es' c' ∧ (∀ e ∈ es', e.own) ∧ es'.filterMap Event.called = c.pending ∧
      c'.pc = .asleep ∧ es'.length ≤ 6 * c.loop.tasks.length + 5 := by
  obtain ⟨es', c', run', ⟨sound, up'⟩, done, length⟩ :=
    Run.exhaust (fun c => Sound c ∧ Up c) rank (fun _ h => h.1.own h.2) ⟨Sound.run run, up⟩
  have own : (∀ e ∈ es', e.own) ∧ es'.filterMap Event.called ++ c'.pending = c.pending := by
    refine run'.history_invariant
      (fun es' c' => (∀ e ∈ es', e.own) ∧ es'.filterMap Event.called ++ c'.pending = c.pending)
      ⟨fun _ mem => (by cases mem), rfl⟩ ?_
    rintro es' t e t' ⟨own, called⟩ ⟨-, own', called'⟩
    refine ⟨List.forall_mem_append.mpr ⟨own, fun e' mem => ?_⟩, ?_⟩
    · rw [List.mem_singleton.mp mem]
      exact own'
    · rw [List.filterMap_append, List.append_assoc, called', called]
  have asleep : c'.pc = .asleep := by
    cases pc : c'.pc <;> simp [rank, pc] at done
    case asleep => rfl
    case taking => exact absurd done (sound.taking pc)
    case returned =>
      rcases up' with running | at_
      · cases running.symm.trans (sound.returned pc)
      · cases pc.symm.trans at_
    case broken => exact absurd pc sound.unbroken
  have empty : c'.pending = [] := by
    rw [pending, taken, asleep, sound.asleep asleep]
    rfl
  rw [empty, List.append_nil] at own
  refine ⟨es', c', run'.mono fun _ _ _ h => h.1, own.1, own.2, asleep, length.trans ?_⟩
  rw [rank]
  split <;> omega

theorem drains_onePosted : ∃ es c, Run Step onePosted es c ∧ (∀ e ∈ es, e.own) ∧
    es.filterMap Event.called = [()] ∧ c.pc = .asleep ∧ es.length ≤ 11 :=
  drains run_onePosted (.inl rfl)

/-! ## Stopping -/

/-- The flag is false, and stays so until `run` is called again. -/
structure Quiet (c : Condition τ) : Prop where
  stopped : c.loop.running = false
  inside : c.pc ≠ .enter

theorem Step.quiet {e : Event τ} (step : Step c e c') (h : Quiet c) (stay : e ≠ .again) :
    Quiet c' ∧ (c'.pc = .taking → c.pc = .taking) ∧
      [e].filterMap Event.called ++ c'.claimed = c.claimed ∧
      c'.unclaimed = c.unclaimed ++ [e].filterMap Event.posted := by
  obtain ⟨stopped, inside⟩ := h
  obtain ⟨⟨tasks, running⟩, pc, stopping⟩ := c
  obtain rfl : running = false := stopped
  cases step with
  | run step =>
    cases move_of_runStep step with
    | enter at_ => exact absurd at_ inside
    | round _ running | tire _ _ running | go _ running => cases running
    | take at_ queue | fault at_ queue =>
      obtain rfl : pc = _ := at_
      obtain rfl : tasks = _ := queue
      exact ⟨⟨rfl, by simp⟩, by simp, rfl, (List.append_nil _).symm⟩
    | left at_ | lock at_ | pass at_ | sleep at_ | leave at_ =>
      obtain rfl : pc = _ := at_
      exact ⟨⟨rfl, by simp⟩, by simp, rfl, (List.append_nil _).symm⟩
  | call at_ | wake at_ =>
    obtain rfl : pc = _ := at_
    exact ⟨⟨rfl, by simp⟩, by simp, rfl, (List.append_nil _).symm⟩
  | again => exact absurd rfl stay
  | @post task free =>
    cases pc with
    | enter => exact absurd rfl inside
    | locked | drowsy | passed | taking => cases free
    | _ => exact ⟨⟨rfl, by simp [Condition.post, WaitPc.notify]⟩,
        by simp [Condition.post, WaitPc.notify], rfl, rfl⟩
  | store => exact ⟨⟨rfl, inside⟩, id, rfl, (List.append_nil _).symm⟩
  | notifyAll =>
    cases pc with
    | enter => exact absurd rfl inside
    | _ => exact ⟨⟨rfl, by simp [Condition.notifyAll, WaitPc.notify]⟩,
        by simp [Condition.notifyAll, WaitPc.notify], rfl, (List.append_nil _).symm⟩

theorem claimed_of_pc (h : c.pc ≠ .taking) : c.claimed = c.taken ∧ c.unclaimed = c.loop.tasks := by
  obtain ⟨⟨tasks, running⟩, pc, stopping⟩ := c
  cases pc with
  | taking => exact absurd rfl h
  | _ => exact ⟨rfl, rfl⟩

/-- After `stop` has stored false, until `run` is called again: a task leaves the queue only if the
thread had passed the test of the flag and was about to take it, and no other does. -/
theorem stopped_quiet (stopped : c.loop.running = false) (inside : c.pc ≠ .enter)
    (run : Run Step c es c') (stay : .again ∉ es) :
    (c.pc ≠ .taking → es.filterMap Event.called ++ c'.taken = c.taken ∧
      c'.loop.tasks = c.loop.tasks ++ es.filterMap Event.posted) ∧
    (c.pc = .taking → es.filterMap Event.called ++ c'.claimed = c.loop.tasks.take 1 ∧
      c'.unclaimed = c.loop.tasks.drop 1 ++ es.filterMap Event.posted) := by
  suffices Quiet c' ∧ (c'.pc = .taking → c.pc = .taking) ∧
      es.filterMap Event.called ++ c'.claimed = c.claimed ∧
      c'.unclaimed = c.unclaimed ++ es.filterMap Event.posted by
    obtain ⟨-, only, called, posted⟩ := this
    refine ⟨fun ne => ?_, fun at_ => ?_⟩
    · rw [← (claimed_of_pc ne).1, ← (claimed_of_pc ne).2, ← (claimed_of_pc (mt only ne)).1,
        ← (claimed_of_pc (mt only ne)).2]
      exact ⟨called, posted⟩
    · rw [called, posted, claimed, unclaimed, at_]
      exact ⟨rfl, rfl⟩
  induction run with
  | nil => exact ⟨⟨stopped, inside⟩, id, rfl, (List.append_nil _).symm⟩
  | @snoc es e t t' _ step ih =>
    rw [List.mem_append, List.mem_singleton, not_or] at stay
    obtain ⟨quiet, only, called, posted⟩ := ih stay.1
    obtain ⟨still, only', called', posted'⟩ := step.quiet quiet (Ne.symm stay.2)
    refine ⟨still, fun at_ => only (only' at_), ?_, ?_⟩
    · rw [List.filterMap_append, List.append_assoc, called', called]
    · rw [List.filterMap_append, posted', posted, List.append_assoc]

/-- Two tasks are posted, and `stop` comes between the test of the flag and `front`. -/
def lateStop : Condition Nat := ⟨⟨[1, 2], false⟩, .taking, 1⟩

theorem run_lateStop : Run Step {}
    [.run, .post 1, .post 2, .run, .run, .run, .run, .store] lateStop := by
  have posted : Run Step ({} : Condition Nat) [.run, .post 1, .post 2] ⟨⟨[1, 2], true⟩, .head, 0⟩ :=
    .snoc (.snoc (.single (.run rfl)) (.post rfl)) (.post rfl)
  exact .snoc (.snoc (.snoc (.snoc (.snoc posted (.run rfl)) (.run rfl)) (.run rfl)) (.run rfl))
    .store

/-- The first is still taken, the second is not. -/
theorem stopped_quiet_lateStop : ∃ es c, Run Step {} es lateStop ∧
    Run Step lateStop [.run, .call 1, .run] c ∧ [1] ++ c.claimed = [1] ∧ c.unclaimed = [2] := by
  have run : Run Step lateStop [.run, .call 1, .run] ⟨⟨[2], false⟩, .returned, 1⟩ :=
    .snoc (.snoc (.single (.run rfl)) (.call rfl)) (.run rfl)
  exact ⟨_, _, run_lateStop, run, (stopped_quiet rfl (by simp [lateStop]) run (by simp)).2 rfl⟩

/-- The loop is stopped, nobody is about to notify, and the thread in `run` sleeps or will. -/
def Lost (c : Condition τ) : Prop :=
  c.loop.running = false ∧ c.stopping = 0 ∧ (c.pc = .drowsy ∨ c.pc = .asleep)

/-- The last notification comes when the thread has looked and does not sleep yet. -/
def Missed (c : Condition τ) (e : Event τ) : Prop :=
  e = .notifyAll ∧ c.loop.running = false ∧ c.stopping = 1 ∧ c.pc = .drowsy

theorem lost_iff_missed {e : Event τ} (h : ¬ c.Lost) (step : Step c e c') :
    c'.Lost ↔ c.Missed e := by
  constructor
  · rintro ⟨stopped, silent, pc'⟩
    cases step with
    | run step =>
      cases move_of_runStep step with
      | tire _ _ running => cases running.symm.trans stopped
      | sleep pc => exact absurd ⟨stopped, silent, .inl pc⟩ h
      | enter | round | left | lock | pass | leave | go | take | fault =>
        rcases pc' with pc' | pc' <;> cases pc'
    | call | again | wake => rcases pc' with pc' | pc' <;> cases pc'
    | post free =>
      cases pc : c.pc <;> simp [Condition.post, WaitPc.notify, pc] at pc'
      rw [pc] at free
      cases free
    | store => cases silent
    | notifyAll pos =>
      refine ⟨rfl, stopped, ?_, ?_⟩
      · have : c.stopping - 1 = 0 := silent
        omega
      · cases pc : c.pc <;> simp [Condition.notifyAll, WaitPc.notify, pc] at pc'
        rfl
  · rintro ⟨rfl, stopped, last, pc⟩
    cases step with
    | notifyAll =>
      refine ⟨stopped, ?_, .inl ?_⟩
      · rw [notifyAll, last]
      · rw [notifyAll, pc]
        rfl

/-- `stop` runs between the last look of the thread and its sleep. -/
def missed : Condition Unit := ⟨⟨[], false⟩, .drowsy, 0⟩

theorem run_missed : Run Step {} [.run, .run, .run, .run, .store, .notifyAll] missed :=
  have drowsy : Run Step ({} : Condition Unit) [.run, .run, .run, .run] ⟨⟨[], true⟩, .drowsy, 0⟩ :=
    .snoc (.snoc (.snoc (.single (.run rfl)) (.run rfl)) (.run rfl)) (.run rfl)
  .snoc (.snoc drowsy .store) (.notifyAll Nat.one_pos)

/-- How far a stopped loop is from the end of `run`. -/
def distance (c : Condition τ) : Nat :=
  match c.pc with
  | .drowsy => 5
  | .asleep => 4
  | .locking | .taking => 3
  | .locked | .executing _ => 2
  | .head | .passed => 1
  | .enter | .returned | .broken => 0

/-- A step of the threads that `stop` involves. -/
def Ending (c : Condition τ) (e : Event τ) (c' : Condition τ) : Prop :=
  Step c e c' ∧ (e.own ∨ e = .notifyAll)

theorem Ending.of_runStep (h : c.runStep = some c') : Ending c .run c' :=
  ⟨.run h, .inl rfl⟩

/-- Where the threads that `stop` involves can still end `run`. -/
structure Stoppable (c : Condition τ) : Prop extends Sound c, Quiet c where
  kept : ¬ c.Lost

theorem Stoppable.ending {e : Event τ} (h : Stoppable c) (step : Ending c e c')
    (seen : ¬ c.Missed e) : Stoppable c' := by
  have stay : e ≠ .again := by
    rintro rfl
    rcases step.2 with which | which <;> cases which
  obtain ⟨quiet, -⟩ := step.1.quiet h.toQuiet stay
  exact ⟨h.toSound.step step.1, quiet, mt (lost_iff_missed h.kept step.1).mp seen⟩

/-- A notification still to come wakes the thread, when the thread goes to sleep first. -/
theorem Stoppable.near (h : Stoppable c) (far : c.distance ≠ 0) :
    ∃ e c', Ending c e c' ∧ Stoppable c' ∧ c'.distance < c.distance := by
  suffices step : ∃ e c', Ending c e c' ∧ ¬ c.Missed e ∧ c'.distance < c.distance by
    obtain ⟨e, c', ending, seen, nearer⟩ := step
    exact ⟨e, c', ending, h.ending ending seen, nearer⟩
  obtain ⟨⟨tasks, _⟩, pc, stopping⟩ := c
  obtain rfl : _ = false := h.stopped
  cases pc with
  | head | locking | passed | drowsy =>
    exact ⟨_, _, .of_runStep rfl, fun missed => (by cases missed.1), Nat.lt_succ_self _⟩
  | locked =>
    have step : runStep ⟨⟨tasks, false⟩, .locked, stopping⟩ =
        some ⟨⟨tasks, false⟩, .passed, stopping⟩ := by simp [runStep]
    exact ⟨_, _, .of_runStep step, fun missed => (by cases missed.1), Nat.lt_succ_self _⟩
  | taking =>
    cases tasks with
    | nil => exact absurd rfl (h.taking rfl)
    | cons task tasks =>
      exact ⟨_, _, .of_runStep rfl, fun missed => (by cases missed.1), Nat.lt_succ_self _⟩
  | asleep =>
    have waited : 0 < stopping := by
      by_contra none
      exact h.kept ⟨rfl, by simpa using none, .inr rfl⟩
    exact ⟨_, _, ⟨.notifyAll waited, .inr rfl⟩, fun missed => (by cases missed.2.2.2),
      Nat.lt_succ_self _⟩
  | executing task =>
    exact ⟨.call task, _, ⟨.call rfl, .inl rfl⟩, fun missed => (by cases missed.1),
      Nat.lt_succ_self _⟩
  | enter | returned | broken => exact absurd rfl far

theorem Stoppable.ended (h : Stoppable c) (done : c.distance = 0) : c.pc = .returned := by
  cases pc : c.pc <;> simp [distance, pc] at done
  case enter => exact absurd pc h.inside
  case returned => rfl
  case broken => exact absurd pc h.unbroken

theorem Ending.lost {e : Event τ} (h : c.Lost) (step : Ending c e c') : c'.Lost := by
  obtain ⟨stopped, silent, pc⟩ := h
  obtain ⟨step, which⟩ := step
  cases step with
  | run step =>
    rcases pc with pc | pc <;> simp only [runStep, pc, Option.some.injEq, reduceCtorEq] at step
    subst step
    exact ⟨stopped, silent, .inr rfl⟩
  | call executing => rcases pc with pc | pc <;> cases pc.symm.trans executing
  | notifyAll pos => omega
  | again | post | store | wake => rcases which with which | which <;> cases which

/-- With `stop` called, the threads in `run` and in `stop` bring `run` to its end unless the
notification is lost; then they never do. -/
theorem returns_iff (run : Run Step {} es c) (stopped : c.loop.running = false)
    (inside : c.pc ≠ .enter) :
    (∃ es' c', Run Step c es' c' ∧ (∀ e ∈ es', e.own ∨ e = .notifyAll) ∧ c'.pc = .returned) ↔
      ¬ c.Lost := by
  constructor
  · rintro ⟨es', c', run', which, returned⟩ lost
    have still : c'.Lost := by
      clear returned
      induction run' with
      | nil => exact lost
      | snoc _ step ih =>
        have all := List.forall_mem_append.mp which
        exact Ending.lost (ih all.1) ⟨step, all.2 _ (List.mem_singleton_self _)⟩
    rcases still.2.2 with pc | pc <;> cases pc.symm.trans returned
  · intro kept
    have start : Stoppable c := ⟨Sound.run run, ⟨stopped, inside⟩, kept⟩
    obtain ⟨es', c', run', end', done, -⟩ := Run.exhaust Stoppable distance
      (fun _ h far => h.near far) start
    refine ⟨es', c', run'.mono fun _ _ _ h => h.1, ?_, ?_⟩
    · refine run'.history_invariant (fun es' _ => ∀ e ∈ es', e.own ∨ e = .notifyAll)
        (fun _ mem => by cases mem) ?_
      intro es' t e t' which step
      refine List.forall_mem_append.mpr ⟨which, fun e' mem => ?_⟩
      rw [List.mem_singleton.mp mem]
      exact step.2
    · exact end'.ended done

theorem returns_iff_missed : ¬ ∃ es c, Run Step missed es c ∧
    (∀ e ∈ es, e.own ∨ e = .notifyAll) ∧ c.pc = .returned :=
  fun returns => (returns_iff run_missed rfl fun eq => by cases eq).mp returns
    ⟨rfl, rfl, .inl rfl⟩

end Condition

end EventLoop

end Lwip
