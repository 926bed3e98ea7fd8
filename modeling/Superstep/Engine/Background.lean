import Superstep.Engine.Run

/-!
# Background runs

A `Background` handle stands for a run on a task of its own. Its events are queued as the task
produces them and taken by `poll`; responses given to the handle join the run in flight, or
restart a run that converged with pending requests, on a new task of the same handle.

When the task makes progress is up to the caller: `advanceTo` lets it take every step due by a
time on its clock, and `wait` runs it to its end. Until the task takes a step the instance is
`RUNNING`, polling finds nothing, and responses are absorbed into the run's first superstep.
Events the task produced with a later time than it was let run to stay held until then.

The handle is idle once its task has finished (`JoinHandle::is_finished`). The task's run ends
with its terminal status, and the task returns after that, as a step of its own (`complete`):
in between the status may already be queued while the handle is not idle.
-/

namespace Superstep

/-- A handle to a run on a task of its own. -/
structure Background where
  /-- Events produced and not yet polled, in order. -/
  queue : List Event := []
  /-- Events produced with a time not yet reached, in order. -/
  held : List Stamped := []
  /-- The run of the handle, until it is waited for. -/
  task : Option Task := none
  /-- Whether the task has returned, which it does some time after its run has ended. -/
  returned : Bool := false

namespace Background

/-- Starts a run on a new task whose clock starts at `time`. -/
def start (inst : Instance) (req : RunRequest) (time : Nat) :
    Except FlowError (Instance × Background) := do
  let (inst, ds) ← inst.begin req
  let (inst, t, opening) := Task.start inst ds time
  pure (inst, { held := opening, task := some t })

/-- Whether the handle's task has finished: it has returned, or it was waited for. -/
def isIdle (h : Background) : Bool :=
  match h.task with
  | some _ => h.returned
  | none => true

/-- The task returns, if its run has ended. -/
def complete (h : Background) : Background :=
  match h.task with
  | some t => if t.isDone then { h with returned := true } else h
  | none => h

/-- Takes every queued event. -/
def poll (h : Background) : List Event × Background := (h.queue, { h with queue := [] })

/-- Lets the task take every step due by `time`, and queues the events that happened by then. -/
def advanceTo (inst : Instance) (h : Background) (time : Nat) : Instance × Background :=
  match h.task with
  | none => (inst, h)
  | some t =>
    let (inst, t, events) := t.advanceTo time inst (Task.budget inst)
    let (due, later) := (h.held ++ events).span (·.time ≤ time)
    (inst, { h with queue := h.queue ++ due.map (·.event), held := later, task := some t })

/-- Answers pending requests: absorbed into the run in flight, or restarting a converged one on
a new task whose clock starts at `time`. -/
def respond (inst : Instance) (h : Background) (responses : List (String × Message)) (time : Nat) :
    Except FlowError (Instance × Background) := do
  let (machine, outcome) ← inst.machine.respond responses
  let inst := { inst with machine }
  match outcome with
  | .absorbed => pure (inst, h)
  | .restart ds =>
    let (inst, t, opening) := Task.start inst ds time
    pure (inst, { h with held := h.held ++ opening, task := some t, returned := false })

/-- Runs the task to its end and returns its terminal state; without a task, the instance's
state. -/
def wait (inst : Instance) (h : Background) : Instance × Background × RunState :=
  match h.task with
  | none => (inst, h, inst.runState)
  | some t =>
    let (inst, t, events) := t.finish inst (Task.budget inst)
    (inst, { queue := h.queue ++ (h.held ++ events).map (·.event), held := [], task := none },
      t.finalState inst)

end Background

end Superstep
