import Mathlib.Data.List.Basic

/-!
# Graceful shutdown

A `shutdown.Manager` collects named hooks. `Start()` marks the manager started, installs a
goroutine that waits for one OS signal and then calls `shutdown()`, and returns a trigger that
calls `shutdown()` too; a second `Start()` returns `func() {}`. `shutdown()` calls the hooks from
the last registered to the first, whatever each returns, and then closes the `done` channel.
`HealthAwareManager.GracefulShutdown()` marks the manager unhealthy and calls `shutdown()`.

Nothing guards `shutdown()` the way `started` guards `Start()`. A process below is the manager, the
triggers `Start` returned, whether the signal goroutine still waits, and what has happened so far:
the hook calls, the close of `done`, and the panic of a second close, which ends the process. Each
`shutdown()` calls every hook in reverse order (`shutdown_events`), and `done` is closed at most
once (`closes_done_at_most_once`), but only because a second `shutdown()` calls every hook again and then
panics (`second_shutdown_reruns_hooks`).
-/

namespace GoCommon.Shutdown

/-- A `Hook`, by what it returns when called with the shutdown context, whose deadline is the
manager's timeout: `nil`, or an error. -/
abbrev Hook := Int → Option String

/-- `namedHook`. -/
structure NamedHook where
  name : String
  fn : Hook

/-- `Manager`, with the fields its methods read and write: the hooks, the timeout of the shutdown
context, whether `done` is closed, and whether `Start` has run. -/
structure Manager where
  hooks : List NamedHook
  timeout : Int
  doneClosed : Bool
  started : Bool

/-- `NewManager(opts...)`: a 30 s timeout, no hook, then each option applied in turn. -/
def newManager (opts : List (Manager → Manager)) : Manager :=
  opts.foldl (fun m opt => opt m) ⟨[], 30 * 1000000000, false, false⟩

/-- `WithTimeout(timeout)`. -/
def withTimeout (timeout : Int) (m : Manager) : Manager := { m with timeout }

/-- What happens during a run of the process. -/
inductive Event where
  /-- A hook named `name` was called and returned `err`. -/
  | called (name : String) (err : Option String)
  /-- `close(m.done)`. -/
  | closed
  /-- A panic, which ends the process. -/
  | panic (message : String)
  deriving DecidableEq, Repr

/-- The loop of `shutdown()`, from index `i - 1` down to `0`: each hook is called with the
context, and one that returns an error is passed over with `continue`. -/
def callHooks (hooks : List NamedHook) (timeout : Int) : Nat → List Event
  | 0 => []
  | i + 1 =>
    match hooks[i]? with
    | some hook => .called hook.name (hook.fn timeout) :: callHooks hooks timeout i
    | none => callHooks hooks timeout i

namespace Manager

/-- `AddHook(name, hook)`. -/
def addHook (m : Manager) (name : String) (hook : Hook) : Manager :=
  { m with hooks := m.hooks ++ [⟨name, hook⟩] }

/-- `AddCloseFunc(name, fn)`: a hook that ignores its context and returns what `fn()` returns. -/
def addCloseFunc (m : Manager) (name : String) (fn : Option String) : Manager :=
  m.addHook name fun _ => fn

/-- `Start()`: whether the trigger it returns calls `shutdown()`, and the manager after it. -/
def start (m : Manager) : Bool × Manager :=
  if m.started then (false, m) else (true, { m with started := true })

/-- `shutdown()`: the hooks, copied under the read lock, called from last to first, then
`close(m.done)`, which panics when `done` is already closed. -/
def shutdown (m : Manager) : List Event × Manager :=
  let calls := callHooks m.hooks m.timeout m.hooks.length
  if m.doneClosed then (calls ++ [.panic "close of closed channel"], m)
  else (calls ++ [.closed], { m with doneClosed := true })

end Manager

/-- `HealthAwareManager`, with the fields `GracefulShutdown` reads and writes. -/
structure HealthAwareManager where
  manager : Manager
  preShutdownDelay : Int
  isHealthy : Bool

/-- `NewHealthAwareManager(opts...)`: healthy, with a 5 s delay before shutdown. -/
def newHealthAwareManager (opts : List (Manager → Manager)) : HealthAwareManager :=
  ⟨newManager opts, 5 * 1000000000, true⟩

/-- The calls `shutdown()` makes: every hook, from the last registered to the first. -/
theorem callHooks_eq_take (hooks : List NamedHook) (timeout : Int) :
    ∀ i ≤ hooks.length, callHooks hooks timeout i =
      ((hooks.take i).map fun hook => Event.called hook.name (hook.fn timeout)).reverse
  | 0, _ => rfl
  | i + 1, inRange => by
    have present : hooks[i]? = some hooks[i] := List.getElem?_eq_getElem (by omega)
    rw [callHooks, present, callHooks_eq_take hooks timeout i (by omega), List.take_succ, present]
    simp only [Option.toList, List.map_append, List.reverse_append, List.map_cons, List.map_nil,
      List.reverse_cons, List.reverse_nil, List.nil_append, List.singleton_append]

/-- **Each shutdown calls every hook once, in reverse order of registration, whatever they
return**, and then closes `done`, or panics when it is closed already. -/
theorem shutdown_events (m : Manager) :
    m.shutdown.1 = ((m.hooks.map fun hook => Event.called hook.name (hook.fn m.timeout)).reverse ++
      if m.doneClosed then [.panic "close of closed channel"] else [.closed]) := by
  rw [Manager.shutdown, callHooks_eq_take _ _ _ le_rfl, List.take_length]
  split <;> simp_all

example : (((newManager []).addCloseFunc "db" none).addHook "http"
    (fun _ => some "timeout")).shutdown.1 =
      [.called "http" (some "timeout"), .called "db" none, .closed] := by
  decide

/-- After `shutdown()`, `done` is closed, whether it panicked or not. -/
theorem shutdown_manager (m : Manager) : m.shutdown.2 = { m with doneClosed := true } := by
  cases m
  unfold Manager.shutdown
  split <;> simp_all

/-- Whether an event is a panic. -/
def Event.isPanic : Event → Bool
  | .panic _ => true
  | _ => false

/-- A process built on a `HealthAwareManager`: the manager, the triggers `Start` returned
(`true` for one that calls `shutdown()`, `false` for `func() {}`), whether the signal goroutine
still waits, and what has happened. -/
structure Process where
  m : HealthAwareManager
  triggers : List Bool
  listening : Bool
  log : List Event

/-- An operation of the program, or a signal from outside. -/
inductive Action where
  /-- `AddHook(name, hook)`. -/
  | addHook (name : String) (hook : Hook)
  /-- `Start()`. -/
  | start
  /-- A call of the `k`-th trigger `Start` returned. -/
  | trigger (k : Nat)
  /-- An OS signal in the manager's list arrives. -/
  | signal
  /-- `GracefulShutdown()`, after its pre-shutdown delay. -/
  | gracefulShutdown

namespace Process

/-- The process with no trigger, no goroutine, and nothing done yet. -/
def init (m : HealthAwareManager) : Process := ⟨m, [], false, []⟩

/-- A panic has ended the process. -/
def crashed (p : Process) : Bool := p.log.any Event.isPanic

/-- `shutdown()` runs to its end. -/
def shutdown (p : Process) : Process :=
  { p with m := { p.m with manager := p.m.manager.shutdown.2 }, log := p.log ++ p.m.manager.shutdown.1 }

/-- One operation; nothing happens once a panic has ended the process. The signal goroutine
takes one signal and calls `shutdown()`; signals after it are caught by `signal.Notify` and go
unread. -/
def step (p : Process) (a : Action) : Process :=
  if p.crashed then p
  else
    match a with
    | .addHook name hook => { p with m := { p.m with manager := p.m.manager.addHook name hook } }
    | .start =>
      let (calls, manager) := p.m.manager.start
      { p with m := { p.m with manager }, triggers := p.triggers ++ [calls],
               listening := p.listening || calls }
    | .trigger k => if p.triggers[k]? = some true then p.shutdown else p
    | .signal => if p.listening then { p with listening := false }.shutdown else p
    | .gracefulShutdown => { p with m := { p.m with isHealthy := false } }.shutdown

/-- A run of operations. -/
def run (p : Process) (schedule : List Action) : Process := schedule.foldl step p

/-- What every run keeps: the log holds one close of `done` when it is closed and none before,
`Start` has handed out one trigger that calls `shutdown()` when the manager is started and none
before, and the signal goroutine waits only on a started manager. -/
structure Consistent (p : Process) : Prop where
  closes : p.log.count .closed = if p.m.manager.doneClosed then 1 else 0
  realTriggers : p.triggers.count true = if p.m.manager.started then 1 else 0
  waiting : p.listening = true → p.m.manager.started = true

theorem count_closed_shutdown (m : Manager) :
    m.shutdown.1.count .closed = if m.doneClosed then 0 else 1 := by
  rw [shutdown_events]
  have noClose : ((m.hooks.map fun hook => Event.called hook.name (hook.fn m.timeout)).reverse).count
      .closed = 0 := List.count_eq_zero.mpr (by simp)
  split <;> simp [noClose]

theorem Consistent.shutdown {p : Process} (consistent : p.Consistent) : p.shutdown.Consistent := by
  obtain ⟨closes, realTriggers, waiting⟩ := consistent
  refine ⟨?_, by simpa [Process.shutdown, shutdown_manager] using realTriggers,
    by simpa [Process.shutdown, shutdown_manager] using waiting⟩
  simp only [Process.shutdown, List.count_append, closes, count_closed_shutdown, shutdown_manager]
  split <;> simp_all

/-- Every operation keeps a process consistent. -/
theorem Consistent.step {p : Process} (consistent : p.Consistent) (a : Action) :
    (p.step a).Consistent := by
  by_cases halted : p.crashed
  · simpa only [Process.step, halted, if_true] using consistent
  simp only [Process.step, halted, Bool.false_eq_true, if_false]
  obtain ⟨closes, realTriggers, waiting⟩ := consistent
  cases a with
  | addHook name hook => exact ⟨closes, realTriggers, waiting⟩
  | start =>
    by_cases started : p.m.manager.started <;>
      exact ⟨by simpa [Manager.start, started] using closes,
        by simpa [Manager.start, started] using realTriggers, by simp [Manager.start, started]⟩
  | trigger k =>
    dsimp only
    split
    · exact Consistent.shutdown ⟨closes, realTriggers, waiting⟩
    · exact ⟨closes, realTriggers, waiting⟩
  | signal =>
    dsimp only
    split
    · exact Consistent.shutdown ⟨closes, realTriggers, fun never => Bool.noConfusion never⟩
    · exact ⟨closes, realTriggers, waiting⟩
  | gracefulShutdown => exact Consistent.shutdown ⟨closes, realTriggers, waiting⟩

/-- **`done` is closed at most once, and `Start` hands out one working trigger**, on every run
from a consistent process. -/
theorem Consistent.run {p : Process} (consistent : p.Consistent) (schedule : List Action) :
    (p.run schedule).Consistent ∧ (p.run schedule).log.count .closed ≤ 1 ∧
      (p.run schedule).triggers.count true ≤ 1 := by
  induction schedule generalizing p with
  | nil =>
    refine ⟨consistent, ?_, ?_⟩
    · rw [Process.run, List.foldl_nil, consistent.closes]; split <;> omega
    · rw [Process.run, List.foldl_nil, consistent.realTriggers]; split <;> omega
  | cons a rest ih => exact ih (consistent.step a)

/-- A new process is consistent. -/
theorem consistent_init {m : HealthAwareManager} (doneOpen : m.manager.doneClosed = false)
    (notStarted : m.manager.started = false) : (init m).Consistent :=
  ⟨by simp [init, doneOpen], by simp [init, notStarted], fun never => Bool.noConfusion never⟩

end Process

/-- **A second trigger runs every hook again and panics.** From a process whose manager is not
started and whose `done` is open, `Start()` followed by two shutdown triggers — the returned
trigger twice, a signal and then the trigger, or a signal and then `GracefulShutdown()` — calls
every hook twice and ends in the panic of closing `done` a second time. -/
theorem second_shutdown_reruns_hooks (p : Process) (notStarted : p.m.manager.started = false)
    (doneOpen : p.m.manager.doneClosed = false) (alive : p.crashed = false) :
    let calls := (p.m.manager.hooks.map fun hook =>
      Event.called hook.name (hook.fn p.m.manager.timeout)).reverse
    let twice := p.log ++ (calls ++ [.closed]) ++ (calls ++ [.panic "close of closed channel"])
    (p.run [.start, .trigger p.triggers.length, .trigger p.triggers.length]).log = twice ∧
      (p.run [.start, .signal, .trigger p.triggers.length]).log = twice ∧
      (p.run [.start, .signal, .gracefulShutdown]).log = twice := by
  have noPanic : p.log.any Event.isPanic = false := alive
  simp [Process.run, Process.step, Process.crashed, noPanic, Manager.start, notStarted,
    Process.shutdown, shutdown_events, shutdown_manager, doneOpen, Event.isPanic]

/-- A service that registered its database and then its HTTP server, whose shutdown overruns the
context. -/
def servingProcess : Process :=
  Process.init ⟨((newManager []).addCloseFunc "db" none).addHook "http"
    (fun _ => some "context deadline exceeded"), 5 * 1000000000, true⟩

theorem second_shutdown_reruns_hooks_serving :
    (servingProcess.m.manager.started = false ∧ servingProcess.m.manager.doneClosed = false ∧
      servingProcess.crashed = false) ∧
    let calls := (servingProcess.m.manager.hooks.map fun hook =>
      Event.called hook.name (hook.fn servingProcess.m.manager.timeout)).reverse
    let twice := servingProcess.log ++ (calls ++ [.closed]) ++
      (calls ++ [.panic "close of closed channel"])
    (servingProcess.run [.start, .trigger servingProcess.triggers.length,
        .trigger servingProcess.triggers.length]).log = twice ∧
      (servingProcess.run [.start, .signal, .trigger servingProcess.triggers.length]).log = twice ∧
      (servingProcess.run [.start, .signal, .gracefulShutdown]).log = twice :=
  ⟨by decide, second_shutdown_reruns_hooks servingProcess rfl rfl rfl⟩

/-- **`done` is closed at most once, and `Start` hands out one working trigger**, on every run of
a process built on a new manager: the log holds one close of `done` once it is closed and none
before, whatever the program and the signals do. -/
theorem closes_done_at_most_once {m : HealthAwareManager} (doneOpen : m.manager.doneClosed = false)
    (notStarted : m.manager.started = false) (schedule : List Action) :
    let p := (Process.init m).run schedule
    p.Consistent ∧ p.log.count .closed ≤ 1 ∧ p.triggers.count true ≤ 1 :=
  (Process.consistent_init doneOpen notStarted).run schedule

/-- A signal and then `GracefulShutdown()` on the serving process: `shutdown()` runs twice, and the
log holds one close of `done`. -/
theorem closes_done_at_most_once_serving :
    (servingProcess.m.manager.doneClosed = false ∧ servingProcess.m.manager.started = false) ∧
      let p := (Process.init servingProcess.m).run [.start, .signal, .gracefulShutdown]
      p.Consistent ∧ p.log.count .closed ≤ 1 ∧ p.triggers.count true ≤ 1 :=
  ⟨⟨rfl, rfl⟩, closes_done_at_most_once rfl rfl _⟩

end GoCommon.Shutdown
