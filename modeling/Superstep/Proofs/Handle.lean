import Mathlib
import Superstep.Engine.Background
import Superstep.Proofs.Trace
import Superstep.Proofs.World

/-!
# A background handle in use

A client drives a background handle by `Call`s: it lets the handle's task run up to a time, polls,
answers requests, waits for the task, or lets a task whose run has ended return. `Client` is a
handle in use, with everything its polls returned and the number of runs the handle started;
`Client.run` makes a list of calls.

After any calls on a handle that a run started, the handle reports its runs in order
(`handle_stream`): what was polled, then what is queued, then what the task produced for a later
time, is the traces of the runs the handle started, one after another (`WholeRun`, `OpenRun`).
An idle handle's last run is whole, and the handle then holds nothing back; the converse waits
for the task to return, which comes after its run's terminal status. `wait` returns the terminal
state that ends the stream; absorbed responses leave the handle as it was, and an empty batch is
absorbed in any state, an idle handle staying idle. All of it rests on one invariant,
`Client.Inv`, that every call keeps.

A run's steps stamp their events no later than the time the run has reached (`Task.horizon`), so
once the task has ended at a time the client let it run to, nothing it produced is still held.
With no responses given, a background run therefore ends with the events and the instance of the
synchronous run from the same instance (`background_matches_execute`).
-/

namespace Superstep

/-! ## When events happen -/

/-- The latest time a run has reached: the end of the superstep in progress, or its clock. -/
def Task.horizon (t : Task) : Nat := t.dueAt.getD t.clock

namespace Instance

/-- A handler invocation stamps its events from the superstep's clock to the clock after it. -/
theorem deliver_times (n : Nat) (s : Step) (d : Delivery) (h : ∀ e ∈ s.events, e.time ≤ s.clock) :
    s.clock ≤ (deliver n s d).clock ∧ ∀ e ∈ (deliver n s d).events, e.time ≤ (deliver n s d).clock := by
  have hc : (deliver n s d).clock = s.clock + (s.inst.dispatch n d).2.pause := by simp [deliver]
  refine ⟨by omega, fun e he => ?_⟩
  rw [hc]
  simp only [deliver, List.mem_append, List.mem_singleton, List.mem_map] at he
  rcases he with (he | rfl) | ⟨x, -, rfl⟩
  · exact (h e he).trans (Nat.le_add_right _ _)
  · exact Nat.le_add_right _ _
  · exact le_rfl

theorem foldl_deliver_times (n : Nat) (ds : List Delivery) (s : Step)
    (h : ∀ e ∈ s.events, e.time ≤ s.clock) :
    s.clock ≤ (ds.foldl (deliver n) s).clock ∧
      ∀ e ∈ (ds.foldl (deliver n) s).events, e.time ≤ (ds.foldl (deliver n) s).clock := by
  induction ds generalizing s with
  | nil => exact ⟨le_rfl, h⟩
  | cons d ds ih =>
    obtain ⟨hle, hd⟩ := deliver_times n s d h
    obtain ⟨hle', hds⟩ := ih (deliver n s d) hd
    exact ⟨hle.trans hle', hds⟩

/-- A superstep stamps its events from its start to its end. -/
theorem superstep_times (inst : Instance) (n start : Nat) (ds : List Delivery) :
    start ≤ (inst.superstep n start ds).clock ∧
      ∀ e ∈ (inst.superstep n start ds).events, e.time ≤ (inst.superstep n start ds).clock := by
  obtain ⟨hle, hes⟩ :=
    foldl_deliver_times n ds ⟨inst, [⟨start, .superstepStarted n⟩], start, [], none⟩ (by simp)
  refine ⟨hle, fun e he => ?_⟩
  simp only [superstep, List.mem_append, List.mem_singleton] at he
  rcases he with he | rfl
  · exact hes e he
  · exact le_rfl

end Instance

namespace Task

/-- A step moves the run's horizon on and stamps its events no later than the new one; a step
that ends the run ends it at the horizon it had. -/
theorem Stepped.times {inst inst' : Instance} {t t' : Task} {es : List Stamped}
    (e : Stepped inst t inst' t' es) :
    t.horizon ≤ t'.horizon ∧ (∀ x ∈ es, x.time ≤ t'.horizon) ∧
      (t'.isDone = true → t'.horizon ≤ t.horizon) := by
  cases e with
  | ended s hs => simp
  | limit next hp hl => simp [horizon, dueAt, hp, Instance.failRun]
  | superstep next hp hl =>
    obtain ⟨hle, hes⟩ := inst.superstep_times (t.supersteps + 1) t.clock next
    exact ⟨by simpa [horizon, dueAt, hp] using hle, by simpa [horizon, dueAt] using hes,
      by simp [isDone, dueAt]⟩
  | failure next details endsAt hp => simp [horizon, dueAt, hp, Instance.failRun]
  | converge next endsAt s hp hs => simp [horizon, dueAt, hp]
  | next next endsAt ds hp hds => simp [horizon, isDone, dueAt, hp]

/-- A step that leaves the run going leaves the machine `RUNNING`. -/
theorem Stepped.running {inst inst' : Instance} {t t' : Task} {es : List Stamped}
    (e : Stepped inst t inst' t' es) (h : t.isDone = false → inst.runState = .running) :
    t'.isDone = false → inst'.runState = .running := by
  cases e with
  | ended s hs => exact h
  | limit next hp hl => simp [isDone, dueAt]
  | superstep next hp hl =>
    intro _
    obtain ⟨regs, hm, -, -⟩ := inst.superstep_registers (t.supersteps + 1) t.clock next
    simpa [Instance.runState, hm] using h (by simp [isDone, dueAt, hp])
  | failure next details endsAt hp => simp [isDone, dueAt]
  | converge next endsAt s hp hs => simp [isDone, dueAt]
  | next next endsAt ds hp hds =>
    intro _
    have hne : ¬(next ++ inst.machine.injected).isEmpty := by
      intro hempty
      rw [Machine.converge_snd, if_pos hempty] at hds
      cases hds
    simpa [Instance.runState, Machine.converge_fst, hne] using h (by simp [isDone, dueAt, hp])

/-- A step never changes the workflow's graph. -/
theorem Stepped.graph {inst inst' : Instance} {t t' : Task} {es : List Stamped}
    (e : Stepped inst t inst' t' es) : inst'.graph = inst.graph := by
  cases e <;> simp [Instance.failRun]

/-- What every step keeps, every run of steps keeps. -/
theorem finish_keeps {P : Instance → Task → Prop}
    (hP : ∀ {inst t inst' t' es}, Stepped inst t inst' t' es → P inst t → P inst' t')
    {inst : Instance} {t : Task} (h : P inst t) (n : Nat) :
    P (finish inst t n).1 (finish inst t n).2.1 := by
  induction n generalizing inst t with
  | zero => exact h
  | succ n ih =>
    cases hd : t.isDone with
    | true => simpa [finish_of_isDone inst hd] using h
    | false =>
      rw [finish_succ_of_not_done inst hd]
      exact ih (hP (stepped inst t) h)

theorem advanceTo_of_isDone (time : Nat) (inst : Instance) {t : Task} (h : t.isDone = true)
    (fuel : Nat) : advanceTo time inst t fuel = (inst, t, []) := by
  have hdue : t.dueAt = none := (isDone_iff_dueAt t).1 h
  cases fuel <;> simp [advanceTo, hdue]

/-- The steps due by time `time` stamp their events no later than the horizon the run reaches,
and a run they end reaches no later than `time`. -/
theorem advanceTo_times (time : Nat) (inst : Instance) (t : Task) (fuel : Nat) :
    t.horizon ≤ (advanceTo time inst t fuel).2.1.horizon ∧
      (∀ x ∈ (advanceTo time inst t fuel).2.2, x.time ≤ (advanceTo time inst t fuel).2.1.horizon) ∧
      ((advanceTo time inst t fuel).2.1.isDone = true →
        t.isDone = true ∨ (advanceTo time inst t fuel).2.1.horizon ≤ time) := by
  induction fuel generalizing inst t with
  | zero => exact ⟨le_rfl, by simp [advanceTo], fun h => .inl h⟩
  | succ fuel ih =>
    cases hdue : t.dueAt with
    | none => simp [advanceTo, hdue, isDone]
    | some due =>
      by_cases hle : due ≤ time
      · have hh : t.horizon = due := by simp [horizon, hdue]
        have hadv : advanceTo time inst t (fuel + 1) =
            ((advanceTo time (step inst t).1 (step inst t).2.1 fuel).1,
              (advanceTo time (step inst t).1 (step inst t).2.1 fuel).2.1,
              (step inst t).2.2 ++ (advanceTo time (step inst t).1 (step inst t).2.1 fuel).2.2) := by
          simp [advanceTo, hdue, hle]
        obtain ⟨h₁, hes₁, hdone₁⟩ := (stepped inst t).times
        obtain ⟨h₂, hes₂, hdone₂⟩ := ih (step inst t).1 (step inst t).2.1
        rw [hadv]
        refine ⟨h₁.trans h₂, fun x hx => ?_, fun hdone => .inr ?_⟩
        · rcases List.mem_append.1 hx with hx | hx
          · exact (hes₁ x hx).trans h₂
          · exact hes₂ x hx
        · rcases hdone₂ hdone with hstep | hlate
          · rw [advanceTo_of_isDone time _ hstep]
            exact (hdone₁ hstep).trans (hh ▸ hle)
          · exact hlate
      · rw [show advanceTo time inst t (fuel + 1) = (inst, t, []) by simp [advanceTo, hdue, hle]]
        exact ⟨le_rfl, by simp, fun h => .inl h⟩

end Task

/-! ## What a handle does -/

namespace Background

theorem advanceTo_of_task (inst : Instance) {h : Background} {t : Task} (ht : h.task = some t)
    (time : Nat) :
    Background.advanceTo inst h time = ((t.advanceTo time inst (Task.budget inst)).1,
      { h with
        queue := h.queue ++ ((h.held ++ (t.advanceTo time inst (Task.budget inst)).2.2).takeWhile
            (·.time ≤ time)).map (·.event),
        held := (h.held ++ (t.advanceTo time inst (Task.budget inst)).2.2).dropWhile (·.time ≤ time),
        task := some (t.advanceTo time inst (Task.budget inst)).2.1 }) := by
  simp [Background.advanceTo, ht, List.span_eq_takeWhile_dropWhile]

theorem wait_of_task (inst : Instance) {h : Background} {t : Task} (ht : h.task = some t) :
    Background.wait inst h = ((t.finish inst (Task.budget inst)).1,
      { queue := h.queue ++ (h.held ++ (t.finish inst (Task.budget inst)).2.2).map (·.event),
        held := [], task := none },
      (t.finish inst (Task.budget inst)).2.1.finalState (t.finish inst (Task.budget inst)).1) := by
  simp [Background.wait, ht]

/-- Responses absorbed into the run in flight leave the handle as it was. -/
theorem respond_of_absorbed {inst : Instance} {h : Background} {rs : List (String × Message)}
    {m : Machine} (hm : inst.machine.respond rs = .ok (m, .absorbed)) (time : Nat) :
    Background.respond inst h rs time = .ok ({ inst with machine := m }, h) := by
  simp [Background.respond, hm, bind, Except.bind, pure, Except.pure]

/-- Responses that restart a converged run start it on a new task, whose opening events are
produced after everything before. -/
theorem respond_of_restart {inst : Instance} {h : Background} {rs : List (String × Message)}
    {m : Machine} {ds : List Delivery} (hm : inst.machine.respond rs = .ok (m, .restart ds))
    (time : Nat) :
    Background.respond inst h rs time =
      .ok ((Task.start { inst with machine := m } ds time).1,
        { h with held := h.held ++ (Task.start { inst with machine := m } ds time).2.2,
                 task := some (Task.start { inst with machine := m } ds time).2.1,
                 returned := false }) := by
  simp [Background.respond, hm, bind, Except.bind, pure, Except.pure]

theorem respond_of_error {inst : Instance} {h : Background} {rs : List (String × Message)}
    {e : FlowError} (hm : inst.machine.respond rs = .error e) (time : Nat) :
    Background.respond inst h rs time = .error e := by
  simp [Background.respond, hm, bind, Except.bind]

/-- A task returns when its run has ended, and nothing else of the handle changes. -/
theorem complete_eq (h : Background) :
    h.complete = { h with returned := h.returned || h.task.any Task.isDone } := by
  obtain ⟨queue, held, task, returned⟩ := h
  cases task with
  | none => simp [complete]
  | some t => cases hd : t.isDone <;> simp [complete, hd]

/-- Once the task has had the chance to return, the handle is idle exactly when it was, or its
task's run has ended. -/
theorem isIdle_complete (h : Background) :
    h.complete.isIdle = (h.isIdle || h.task.any Task.isDone) := by
  obtain ⟨queue, held, task, returned⟩ := h
  cases task <;> simp [complete_eq, isIdle]

end Background

/-! ## Whole runs and runs in flight -/

/-- The whole trace of a run of `g`: started, running, between one superstep and the graph's
limit, each showing its deliveries, and an ending. -/
def WholeRun (g : Graph) (tr : List Event) : Prop :=
  ∃ id dss sts en, Shows g 1 dss sts ∧ dss ≠ [] ∧ sts.length ≤ g.maxSupersteps ∧
    tr = runTrace id sts en

/-- The trace of a run of `g` that has not ended: started, running, and its supersteps so far. -/
def OpenRun (g : Graph) (tr : List Event) : Prop :=
  ∃ id dss sts, Shows g 1 dss sts ∧ tr = runSoFar id sts

theorem Ending.state_ne_running (en : Ending) : en.state ≠ .running := by
  cases en with
  | converged waiting => cases waiting <;> simp [Ending.state]
  | failed details => simp [Ending.state]

/-- A whole run ends with a terminal status. -/
theorem WholeRun.terminal {g : Graph} {tr : List Event} (h : WholeRun g tr) :
    ∃ s, s ≠ .running ∧ tr.getLast? = some (.status s Timestamp.epoch) := by
  obtain ⟨id, dss, sts, en, -, -, -, rfl⟩ := h
  exact ⟨en.state, en.state_ne_running, runTrace_getLast? id sts en⟩

/-- A run in flight has not reported its end. -/
theorem OpenRun.not_wholeRun {g : Graph} {tr : List Event} (h : OpenRun g tr) : ¬WholeRun g tr := by
  rintro ⟨id', dss', sts', en, -, -, -, rfl⟩
  obtain ⟨id, dss, sts, -, heq⟩ := h
  have hst := congrArg (List.filterMap Event.asStatus?) heq
  rw [runTrace_statuses, runSoFar_statuses] at hst
  simp at hst

namespace Task

variable {g : Graph} {initial : List Delivery} {id : Uuid} {t : Task} {cur : List Event}

/-- The events of a run that is over are a whole run, ending in its terminal state. -/
theorem Traced.wholeRun (h : t.Traced g initial id cur) (hd : t.isDone = true) :
    WholeRun g cur ∧ ∀ inst, cur.getLast? = some (.status (t.finalState inst) Timestamp.epoch) := by
  obtain ⟨dss, sts, hshows, hlen, hle, hphase⟩ := h
  rcases hp : t.phase with next | ⟨next, failure, endsAt⟩ | st
  · simp [isDone, dueAt, hp] at hd
  · simp [isDone, dueAt, hp] at hd
  rw [hp] at hphase
  obtain ⟨hhead, en, hen, rfl⟩ := hphase
  have hne : dss ≠ [] := fun hnil => by simp [hnil] at hhead
  refine ⟨⟨id, dss, sts, en, hshows, hne, by rw [← hshows.length_eq, hlen]; exact hle, rfl⟩,
    fun inst => ?_⟩
  rw [runTrace_getLast?, hen]
  simp [finalState, hp]

/-- The events of a run in flight are an open run. -/
theorem Traced.openRun (h : t.Traced g initial id cur) (hd : t.isDone = false) : OpenRun g cur := by
  obtain ⟨dss, sts, hshows, -, -, hphase⟩ := h
  rcases hp : t.phase with next | ⟨next, failure, endsAt⟩ | st
  · rw [hp] at hphase
    exact ⟨id, dss, sts, hshows, hphase.2.2⟩
  · rw [hp] at hphase
    exact ⟨id, dss, sts, hshows, hphase.2⟩
  · simp [isDone, dueAt, hp] at hd

/-- A run that is over has left the machine in the state it ended in, which is not `RUNNING`. -/
theorem Settled.finalState {inst : Instance} (h : t.Settled inst) (hd : t.isDone = true) :
    t.finalState inst = inst.runState ∧ inst.runState ≠ .running := by
  rcases hp : t.phase with next | ⟨next, failure, endsAt⟩ | st
  · simp [isDone, dueAt, hp] at hd
  · simp [isDone, dueAt, hp] at hd
  obtain ⟨hst, hrule⟩ := h st hp
  refine ⟨by simp [Task.finalState, hp, hst], ?_⟩
  rw [hst]
  rcases hrule with rfl | rfl
  · simp
  · split <;> simp

end Task

/-! ## Starting and answering -/

/-- A run that begins is `RUNNING`, on the same graph, with deliveries to hand out. -/
theorem Machine.take_ne_nil {pending : List Request} {rs : List (String × Message)}
    (hv : Valid pending rs) (hne : rs ≠ []) : (take pending rs).2 ≠ [] := by
  intro hnil
  have hlen := (take_answered hv).deliveries.length_eq
  rw [hnil] at hlen
  exact hne (List.length_eq_zero_iff.1 hlen)

theorem Instance.begin_started {inst inst' : Instance} {req : RunRequest} {ds : List Delivery}
    (h : inst.begin req = .ok (inst', ds)) :
    inst'.graph = inst.graph ∧ inst'.runState = .running ∧ ds ≠ [] := by
  obtain ⟨-, machine, rfl, hm⟩ := Instance.begin_eq_ok h
  rcases hm with ⟨m, -, rfl, rfl⟩ | ⟨rs, -, -, hne, hv, rfl, rfl⟩
  · exact ⟨rfl, rfl, by simp⟩
  · exact ⟨rfl, rfl, Machine.take_ne_nil hv hne⟩

/-- Responses restart a run with deliveries to hand out, and the machine `RUNNING`. -/
theorem Machine.restart_started {m m' : Machine} {rs : List (String × Message)} {ds : List Delivery}
    (h : m.respond rs = .ok (m', .restart ds)) : m'.state = .running ∧ ds ≠ [] := by
  obtain ⟨hne, -, -⟩ := respond_eq_restart h
  rcases respond_eq_ok h with ⟨-, -, ho⟩ | ⟨-, -, -, ho⟩ | ⟨hv, -, rfl, ho⟩
  · cases ho
  · cases ho
  · cases ho
    exact ⟨rfl, take_ne_nil hv hne⟩

/-- An empty batch is absorbed without change; any other only into a run in flight, which keeps
running. -/
theorem Machine.absorbed_running {m m' : Machine} {rs : List (String × Message)}
    (h : m.respond rs = .ok (m', .absorbed)) :
    (rs = [] ∧ m' = m) ∨ (m.state = .running ∧ m'.state = .running) := by
  rcases respond_eq_ok h with ⟨hnil, rfl, -⟩ | ⟨-, hs, rfl, -⟩ | ⟨-, -, -, ho⟩
  · exact .inl ⟨hnil, rfl⟩
  · exact .inr ⟨hs, hs⟩
  · cases ho

theorem Background.start_eq_ok {inst inst₀ : Instance} {req : RunRequest} {time : Nat}
    {h₀ : Background} (h : Background.start inst req time = .ok (inst₀, h₀)) :
    ∃ inst' ds, inst.begin req = .ok (inst', ds) ∧ inst₀ = (Task.start inst' ds time).1 ∧
      h₀ = { held := (Task.start inst' ds time).2.2, task := some (Task.start inst' ds time).2.1 } := by
  unfold Background.start at h
  cases hb : inst.begin req with
  | error e => simp [hb, bind, Except.bind] at h
  | ok x =>
    obtain ⟨inst', ds⟩ := x
    simp only [hb, bind, Except.bind, pure, Except.pure, Except.ok.injEq, Prod.mk.injEq] at h
    exact ⟨inst', ds, rfl, h.1.symm, h.2.symm⟩

/-! ## A client of a handle -/

/-- What a client does with a background handle. -/
inductive Call where
  /-- Lets the handle's task take every step due by `time`. -/
  | advance (time : Nat)
  /-- Takes every queued event. -/
  | poll
  /-- Answers pending requests; a restarted run's clock starts at `time`. -/
  | respond (responses : List (String × Message)) (time : Nat)
  /-- Waits for the task to end. -/
  | wait
  /-- The handle's task returns, if its run has ended. -/
  | complete

/-- A background handle in use: the instance it runs on, the handle, everything its polls
returned, and the number of runs the handle started. -/
structure Client where
  inst : Instance
  handle : Background
  polled : List Event := []
  runs : Nat := 1

namespace Client

/-- The runs that answering `responses` starts: one when it restarts a run that converged. -/
def restarts (inst : Instance) (responses : List (String × Message)) : Nat :=
  match inst.machine.respond responses with
  | .ok (_, .restart _) => 1
  | _ => 0

/-- One call; a refused batch of responses changes nothing. -/
def call (c : Client) : Call → Client
  | .advance time =>
    { c with inst := (Background.advanceTo c.inst c.handle time).1,
             handle := (Background.advanceTo c.inst c.handle time).2 }
  | .poll => { c with handle := c.handle.poll.2, polled := c.polled ++ c.handle.poll.1 }
  | .respond responses time =>
    match Background.respond c.inst c.handle responses time with
    | .ok (inst, handle) => { c with inst, handle, runs := c.runs + restarts c.inst responses }
    | .error _ => c
  | .wait =>
    { c with inst := (Background.wait c.inst c.handle).1,
             handle := (Background.wait c.inst c.handle).2.1 }
  | .complete => { c with handle := c.handle.complete }

/-- Calls made one after another. -/
def run (c : Client) (calls : List Call) : Client := calls.foldl call c

@[simp] theorem call_complete_handle (c : Client) : (c.call .complete).handle = c.handle.complete :=
  rfl

/-- After `wait` the handle has no task: it is idle. -/
theorem call_wait_task (c : Client) : (c.call .wait).handle.task = none := by
  show (Background.wait c.inst c.handle).2.1.task = none
  unfold Background.wait
  split
  · assumption
  · rfl

/-- The handle's task `t`, the events `cur` its run has produced, the instance and the events
the handle holds back agree: the events are the run's so far, the machine is `RUNNING` while the
run is and in its terminal state after, and nothing held back is later than the run has got. -/
structure Live (g : Graph) (inst : Instance) (held : List Stamped) (t : Task) (cur : List Event) :
    Prop where
  traced : ∃ initial id, t.Traced g initial id cur
  settled : t.Settled inst
  running : t.isDone = false → inst.runState = .running
  early : ∀ e ∈ held, e.time ≤ t.horizon
  quiet : t.isDone = true → held = []

/-- After `wait`: nothing is held back, and the last run is whole and ended in the instance's
state. -/
structure Joined (g : Graph) (inst : Instance) (held : List Stamped) (cur : List Event) : Prop where
  quiet : held = []
  whole : WholeRun g cur
  last : cur.getLast? = some (.status inst.runState Timestamp.epoch)

/-- What every call keeps: everything the handle's runs produced, polled or not, is the traces of
the runs it started, whole ones first and last the run of its task. -/
structure Inv (g : Graph) (c : Client) : Prop where
  graph : c.inst.graph = g
  returned : ∀ t, c.handle.task = some t → c.handle.returned = true → t.isDone = true
  stream : ∃ (done : List (List Event)) (cur : List Event), c.polled ++ c.handle.queue ++ c.handle.held.map (·.event) = done.flatten ++ cur ∧
    done.length + 1 = c.runs ∧ (∀ tr ∈ done, WholeRun g tr) ∧
    (∀ t, c.handle.task = some t → Live g c.inst c.handle.held t cur) ∧
    (c.handle.task = none → Joined g c.inst c.handle.held cur)

variable {g : Graph}

/-- A run just begun is live, holding back its opening events. -/
theorem Live.start {inst : Instance} {ds : List Delivery} (hg : inst.graph = g)
    (hrun : inst.runState = .running) (hne : ds ≠ []) (time : Nat) :
    Live g (Task.start inst ds time).1 (Task.start inst ds time).2.2 (Task.start inst ds time).2.1
      ((Task.start inst ds time).2.2.map (·.event)) :=
  ⟨⟨ds, _, hg ▸ Task.traced_start inst hne time⟩, Task.settled_of_not_done rfl, fun _ => hrun,
    by simp [Task.start, Task.horizon, Task.dueAt], by simp [Task.start, Task.isDone, Task.dueAt]⟩

/-! ### Every call keeps the invariant -/

/-- A handle just started by a run. -/
theorem inv_start {inst inst₀ : Instance} {h₀ : Background} {req : RunRequest} {time : Nat}
    (h : Background.start inst req time = .ok (inst₀, h₀)) :
    Inv inst.graph { inst := inst₀, handle := h₀ } := by
  obtain ⟨inst', ds, hb, rfl, rfl⟩ := Background.start_eq_ok h
  obtain ⟨hg, hrun, hne⟩ := Instance.begin_started hb
  refine ⟨hg, (fun _ _ hr => by cases hr), [], (Task.start inst' ds time).2.2.map (·.event), by simp,
    rfl, by simp, fun t ht => ?_, fun ht => by cases ht⟩
  cases ht
  exact Live.start hg hrun hne time

theorem Inv.poll {c : Client} (h : c.Inv g) : (c.call .poll).Inv g := by
  obtain ⟨hg, hret, done, cur, hs, hruns, hdone, hlive, hjoined⟩ := h
  exact ⟨hg, hret, done, cur, by simpa [call, Background.poll] using hs, hruns, hdone, hlive,
    hjoined⟩

/-- Letting the task run up to `time` keeps it live, with the events it produced added; what is
not due by `time` stays held back. -/
theorem Live.advance {inst : Instance} {held : List Stamped} {t : Task} {cur : List Event}
    (h : Live g inst held t cur) (hg : inst.graph = g) (hmax : 0 < g.maxSupersteps) (time : Nat) :
    Live g (t.advanceTo time inst (Task.budget inst)).1
      ((held ++ (t.advanceTo time inst (Task.budget inst)).2.2).dropWhile (·.time ≤ time))
      (t.advanceTo time inst (Task.budget inst)).2.1
      (cur ++ (t.advanceTo time inst (Task.budget inst)).2.2.map (·.event)) ∧
    (t.advanceTo time inst (Task.budget inst)).1.graph = g := by
  obtain ⟨⟨initial, id, htr⟩, hset, hrun, hearly, hquiet⟩ := h
  obtain ⟨hhor, hes, hdone⟩ := Task.advanceTo_times time inst t (Task.budget inst)
  obtain ⟨k, -, hk⟩ := Task.advanceTo_eq_finish inst time t (Task.budget inst)
  have hlate : ∀ e ∈ held ++ (t.advanceTo time inst (Task.budget inst)).2.2,
      e.time ≤ (t.advanceTo time inst (Task.budget inst)).2.1.horizon := by
    intro e he
    rcases List.mem_append.1 he with he | he
    · exact (hearly e he).trans hhor
    · exact hes e he
  refine ⟨⟨⟨initial, id, ?_⟩, ?_, ?_, fun e he => hlate e ((List.dropWhile_sublist _).subset he),
    fun hd => ?_⟩, ?_⟩
  · rw [hk]
    exact htr.finish inst hg hmax k
  · rw [hk]
    exact hset.finish k
  · rw [hk]
    exact Task.finish_keeps (P := fun i t => t.isDone = false → i.runState = .running)
      (fun e h => e.running h) hrun k
  · rcases hdone hd with ht | hle
    · rw [Task.advanceTo_of_isDone time inst ht, hquiet ht]
      rfl
    · exact List.dropWhile_eq_nil_iff.2 fun e he => by simpa using (hlate e he).trans hle
  · rw [hk]
    exact Task.finish_keeps (P := fun i _ => i.graph = g) (fun e h => e.graph.trans h) hg k

theorem Inv.advance {c : Client} (h : c.Inv g) (hmax : 0 < g.maxSupersteps) (time : Nat) :
    (c.call (.advance time)).Inv g := by
  obtain ⟨hg, hret, done, cur, hs, hruns, hdone, hlive, hjoined⟩ := h
  cases ht : c.handle.task with
  | none =>
    have hc : c.call (.advance time) = c := by simp [call, Background.advanceTo, ht]
    rw [hc]
    exact ⟨hg, hret, done, cur, hs, hruns, hdone, hlive, hjoined⟩
  | some t =>
    obtain ⟨hl, hg'⟩ := (hlive t ht).advance hg hmax time
    simp only [call, Background.advanceTo_of_task c.inst ht]
    refine ⟨hg', fun t' ht' hr => ?_, done,
      cur ++ (t.advanceTo time c.inst (Task.budget c.inst)).2.2.map (·.event), ?_, hruns, hdone,
      fun t' ht' => ?_, fun ht' => by cases ht'⟩
    · cases ht'
      have hd := hret t ht hr
      rw [Task.advanceTo_of_isDone time c.inst hd]
      exact hd
    · rw [List.append_assoc c.polled, List.append_assoc, ← List.map_append,
        List.takeWhile_append_dropWhile, List.map_append, ← List.append_assoc, ← List.append_assoc,
        hs, List.append_assoc]
    · cases ht'
      exact hl

/-- A task that is over has left the machine out of `RUNNING`. -/
theorem Live.not_done {inst : Instance} {held : List Stamped} {t : Task} {cur : List Event}
    (h : Live g inst held t cur) (hr : inst.runState = .running) : t.isDone = false := by
  cases hd : t.isDone with
  | false => rfl
  | true => exact absurd hr (h.settled.finalState hd).2

/-- After `wait` the machine is out of `RUNNING`: the last run ended. -/
theorem Joined.not_running {inst : Instance} {held : List Stamped} {cur : List Event}
    (h : Joined g inst held cur) : inst.runState ≠ .running := by
  obtain ⟨s, hs, hlast⟩ := h.whole.terminal
  rw [h.last] at hlast
  cases hlast
  exact hs

theorem Inv.respond {c : Client} (h : c.Inv g) (rs : List (String × Message)) (time : Nat) :
    (c.call (.respond rs time)).Inv g := by
  obtain ⟨hg, hret, done, cur, hs, hruns, hdone, hlive, hjoined⟩ := h
  cases hm : c.inst.machine.respond rs with
  | error e =>
    have hc : c.call (.respond rs time) = c := by simp [call, Background.respond_of_error hm]
    rw [hc]
    exact ⟨hg, hret, done, cur, hs, hruns, hdone, hlive, hjoined⟩
  | ok x =>
    obtain ⟨m, o⟩ := x
    cases o with
    | absorbed =>
      have hc : c.call (.respond rs time) = { c with inst := { c.inst with machine := m } } := by
        simp [call, Background.respond_of_absorbed hm, restarts, hm]
      rw [hc]
      rcases Machine.absorbed_running hm with ⟨-, rfl⟩ | ⟨hrun, hrun'⟩
      · exact ⟨hg, hret, done, cur, hs, hruns, hdone, hlive, hjoined⟩
      · refine ⟨hg, hret, done, cur, hs, hruns, hdone, fun t ht => ?_,
          fun ht => absurd hrun (hjoined ht).not_running⟩
        have hl := hlive t ht
        exact ⟨hl.traced, Task.settled_of_not_done (hl.not_done hrun), fun _ => hrun', hl.early,
          hl.quiet⟩
    | restart ds =>
      obtain ⟨-, -, hnr⟩ := Machine.respond_eq_restart hm
      obtain ⟨hrun, hne⟩ := Machine.restart_started hm
      have hprev : c.handle.held = [] ∧ WholeRun g cur := by
        cases ht : c.handle.task with
        | none => exact ⟨(hjoined ht).quiet, (hjoined ht).whole⟩
        | some t =>
          have hl := hlive t ht
          have hd : t.isDone = true := by
            cases hd : t.isDone with
            | false => exact absurd (hl.running hd) hnr
            | true => rfl
          obtain ⟨initial, id, htr⟩ := hl.traced
          exact ⟨hl.quiet hd, (htr.wholeRun hd).1⟩
      have hc : c.call (.respond rs time) =
          { c with inst := (Task.start { c.inst with machine := m } ds time).1,
                   handle := { c.handle with
                     held := c.handle.held ++ (Task.start { c.inst with machine := m } ds time).2.2,
                     task := some (Task.start { c.inst with machine := m } ds time).2.1,
                     returned := false },
                   runs := c.runs + 1 } := by
        simp [call, Background.respond_of_restart hm, restarts, hm]
      rw [hc]
      refine ⟨hg, (fun _ _ hr => by cases hr), done ++ [cur],
        (Task.start { c.inst with machine := m } ds time).2.2.map (·.event), ?_, by simp [hruns],
        fun tr htr => ?_, fun t ht => ?_, fun ht => by cases ht⟩
      · rw [hprev.1, List.map_nil, List.append_nil] at hs
        rw [hprev.1, List.nil_append, hs, List.flatten_append, List.flatten_singleton]
      · rcases List.mem_append.1 htr with htr | htr
        · exact hdone tr htr
        · rw [List.mem_singleton.1 htr]
          exact hprev.2
      · cases ht
        rw [hprev.1]
        exact @Live.start g { c.inst with machine := m } ds hg hrun hne time

theorem Inv.wait {c : Client} (h : c.Inv g) (hmax : 0 < g.maxSupersteps) : (c.call .wait).Inv g := by
  obtain ⟨hg, hret, done, cur, hs, hruns, hdone, hlive, hjoined⟩ := h
  cases ht : c.handle.task with
  | none =>
    have hc : c.call .wait = c := by simp [call, Background.wait, ht]
    rw [hc]
    exact ⟨hg, hret, done, cur, hs, hruns, hdone, hlive, hjoined⟩
  | some t =>
    obtain ⟨⟨initial, id, htr⟩, hset, -, -, -⟩ := hlive t ht
    have hd := Task.finish_budget_isDone c.inst (t := t) (by rw [hg]; exact htr.supersteps_le)
    obtain ⟨hwhole, hlast⟩ := (htr.finish c.inst hg hmax (Task.budget c.inst)).wholeRun hd
    obtain ⟨hstate, -⟩ := (hset.finish (Task.budget c.inst)).finalState hd
    simp only [call, Background.wait_of_task c.inst ht]
    refine ⟨Task.finish_keeps (P := fun i _ => i.graph = g) (fun e h => e.graph.trans h) hg _,
      (fun t' ht' => by cases ht'), done, cur ++ (t.finish c.inst (Task.budget c.inst)).2.2.map (·.event), ?_, hruns, hdone,
      fun t' ht' => (by cases ht'), fun _ => ⟨rfl, hwhole, ?_⟩⟩
    · rw [List.map_nil, List.append_nil, List.map_append, ← List.append_assoc, ← List.append_assoc,
        hs, List.append_assoc]
    · rw [hlast (t.finish c.inst (Task.budget c.inst)).1, hstate]

theorem Inv.complete {c : Client} (h : c.Inv g) : (c.call .complete).Inv g := by
  refine ⟨h.graph, fun t ht hr => ?_, by simpa [call, Background.complete_eq] using h.stream⟩
  have ht' : c.handle.task = some t := by simpa [call, Background.complete_eq] using ht
  have hr' : c.handle.returned = true ∨ t.isDone = true := by
    simpa [call, Background.complete_eq, ht'] using hr
  exact hr'.elim (h.returned t ht') id

theorem Inv.call {c : Client} (h : c.Inv g) (hmax : 0 < g.maxSupersteps) (k : Call) :
    (c.call k).Inv g := by
  cases k with
  | advance time => exact h.advance hmax time
  | poll => exact h.poll
  | respond rs time => exact h.respond rs time
  | wait => exact h.wait hmax
  | complete => exact h.complete

/-- Every list of calls keeps the invariant. -/
theorem Inv.run {c : Client} (h : c.Inv g) (hmax : 0 < g.maxSupersteps) (calls : List Call) :
    (c.run calls).Inv g := by
  induction calls generalizing c with
  | nil => exact h
  | cons k calls ih => exact ih (h.call hmax k)

/-- `wait` returns the state it leaves the instance in. -/
theorem Inv.wait_state {c : Client} (h : c.Inv g) :
    (Background.wait c.inst c.handle).2.2 = (Background.wait c.inst c.handle).1.runState := by
  obtain ⟨hg, -, _, _, _, _, _, hlive, _⟩ := h
  cases ht : c.handle.task with
  | none => simp [Background.wait, ht]
  | some t =>
    obtain ⟨⟨initial, id, htr⟩, hset, -, -, -⟩ := hlive t ht
    have hd := Task.finish_budget_isDone c.inst (t := t) (by rw [hg]; exact htr.supersteps_le)
    rw [Background.wait_of_task c.inst ht]
    exact ((hset.finish (Task.budget c.inst)).finalState hd).1

/-- A task still attached to an idle handle has returned, so its run has ended. -/
theorem Inv.done_of_idle {c : Client} (h : c.Inv g) {t : Task} (ht : c.handle.task = some t)
    (hidle : c.handle.isIdle = true) : t.isDone = true :=
  h.returned t ht (by simpa [Background.isIdle, ht] using hidle)

/-- A handle whose run is in flight is not idle: its task cannot have returned. -/
theorem Inv.not_idle {c : Client} (h : c.Inv g) {t : Task} (ht : c.handle.task = some t)
    (hd : t.isDone = false) : c.handle.isIdle = false := by
  cases hidle : c.handle.isIdle with
  | false => rfl
  | true => simpa [hd] using h.done_of_idle ht hidle

end Client

/-! ## What a handle shows -/

/-- What a background handle on a run of graph `g` shows, after the calls of client `c`. -/
structure HandleReport (g : Graph) (c : Client) : Prop where
  /-- Everything the handle's runs produced (polled, queued, or held back for a later time) is
  the traces of the runs it started, in order: whole runs, and last the run of its task, whole
  when the handle is idle; once the task has had the chance to return, the handle is idle
  exactly when that run is whole. -/
  stream : ∃ (done : List (List Event)) (cur : List Event),
    c.polled ++ c.handle.queue ++ c.handle.held.map (·.event) = done.flatten ++ cur ∧
    done.length + 1 = c.runs ∧ (∀ tr ∈ done, WholeRun g tr) ∧ (WholeRun g cur ∨ OpenRun g cur) ∧
    (c.handle.isIdle = true → WholeRun g cur) ∧
    ((c.call .complete).handle.isIdle = true ↔ WholeRun g cur)
  /-- An idle handle holds nothing back: all is polled or queued. -/
  idle : c.handle.isIdle = true → c.handle.held = []
  /-- `wait` returns the terminal status that ends the stream, and leaves the instance in it. -/
  wait : (Background.wait c.inst c.handle).1.runState = (Background.wait c.inst c.handle).2.2 ∧
    (c.polled ++ (Background.wait c.inst c.handle).2.1.queue).getLast? =
      some (.status (Background.wait c.inst c.handle).2.2 Timestamp.epoch)
  /-- Absorbed responses leave the handle as it was; a batch that is not empty is absorbed only
  into a run in flight, while an empty one is absorbed in any state. -/
  absorbed : ∀ rs time m, c.inst.machine.respond rs = .ok (m, .absorbed) →
    Background.respond c.inst c.handle rs time = .ok ({ c.inst with machine := m }, c.handle) ∧
      (rs ≠ [] → c.handle.isIdle = false)
  /-- A poll right after a poll returns nothing. -/
  drained : (c.call .poll).handle.poll.1 = []

namespace Client

variable {g : Graph}

/-- The run of the handle's task is whole or still open: whole when the handle is idle, and
exactly when it is once the task has had the chance to return. -/
theorem Inv.lastRun {c : Client} (h : c.Inv g) {cur : List Event}
    (hlive : ∀ t, c.handle.task = some t → Live g c.inst c.handle.held t cur)
    (hjoined : c.handle.task = none → Joined g c.inst c.handle.held cur) :
    (WholeRun g cur ∨ OpenRun g cur) ∧ (c.handle.isIdle = true → WholeRun g cur) ∧
      ((c.call .complete).handle.isIdle = true ↔ WholeRun g cur) := by
  cases ht : c.handle.task with
  | none =>
    have hj := hjoined ht
    have hcomplete : (c.call .complete).handle.isIdle = true := by
      rw [call_complete_handle, Background.isIdle_complete]
      simp [Background.isIdle, ht]
    exact ⟨.inl hj.whole, fun _ => hj.whole, iff_of_true hcomplete hj.whole⟩
  | some t =>
    obtain ⟨initial, id, htr⟩ := (hlive t ht).traced
    cases hd : t.isDone with
    | true =>
      have hwhole := (htr.wholeRun hd).1
      exact ⟨.inl hwhole, fun _ => hwhole, by simp [Background.isIdle_complete, ht, hd, hwhole]⟩
    | false =>
      have hopen := htr.openRun hd
      have hbusy := h.not_idle ht hd
      exact ⟨.inr hopen, by simp [hbusy],
        by simp [Background.isIdle_complete, ht, hd, hbusy, hopen.not_wholeRun]⟩

theorem Inv.report {c : Client} (h : c.Inv g) (hmax : 0 < g.maxSupersteps) : HandleReport g c := by
  have hw := h.wait hmax
  have hstate := h.wait_state
  obtain ⟨done, cur, hs, hruns, hdone, hlive, hjoined⟩ := h.stream
  refine ⟨⟨done, cur, hs, hruns, hdone, h.lastRun hlive hjoined⟩, fun hidle => ?_,
    ⟨hstate.symm, ?_⟩, fun rs time m hm => ⟨Background.respond_of_absorbed hm time, fun hne => ?_⟩,
    rfl⟩
  · cases ht : c.handle.task with
    | none => exact (hjoined ht).quiet
    | some t => exact (hlive t ht).quiet (h.done_of_idle ht hidle)
  · obtain ⟨-, -, done', cur', hs', -, -, -, hj'⟩ := hw
    obtain ⟨hq, -, hlast⟩ := hj' c.call_wait_task
    rw [hq, List.map_nil, List.append_nil] at hs'
    have hs'' : c.polled ++ (Background.wait c.inst c.handle).2.1.queue = done'.flatten ++ cur' := hs'
    rw [hs'', List.getLast?_append, hstate, hlast]
    rfl
  · rcases Machine.absorbed_running hm with ⟨hnil, -⟩ | ⟨hrun, -⟩
    · exact absurd hnil hne
    · cases ht : c.handle.task with
      | none => exact absurd hrun (hjoined ht).not_running
      | some t => exact h.not_idle ht ((hlive t ht).not_done hrun)

end Client

/-- **A background handle reports its runs in order.** On a graph with a superstep limit, for a
handle that a run started and after any calls on it: everything the handle's runs produced is
polled, queued or held back for a later time, and it is the traces of the runs the handle
started (one at the start, one for each restart) in order, whole runs and last the run of its
task, which is whole when the handle is idle, and exactly when it is once the task has had the
chance to return; an idle handle holds nothing back. `wait` returns the terminal status that ends
the stream, and leaves the instance in that state; absorbed responses leave the handle as it was,
and a non-empty batch is absorbed only while the run is in flight; a poll right after a poll
returns nothing. -/
theorem handle_stream (inst inst₀ : Instance) (h₀ : Background) (req : RunRequest) (time : Nat)
    (hstart : Background.start inst req time = .ok (inst₀, h₀))
    (hmax : 0 < inst.graph.maxSupersteps) (calls : List Call) :
    HandleReport inst.graph (Client.run { inst := inst₀, handle := h₀ } calls) :=
  ((Client.inv_start hstart).run hmax calls).report hmax

/-- A client of the approval gate lets the run go and its task return, polls, answers a request
it was never asked, waits, and polls again. -/
theorem approval_gate_handle_reported :
    ∃ inst₀ h₀, Background.start (Instance.new Nodes.approvalGate)
        { message := some (Nodes.text "ok?") } 0 = .ok (inst₀, h₀) ∧
      0 < (Instance.new Nodes.approvalGate).graph.maxSupersteps ∧
      HandleReport (Instance.new Nodes.approvalGate).graph (Client.run { inst := inst₀, handle := h₀ }
        [.advance 5, .complete, .poll, .respond [("nope", Nodes.text "yes")] 6, .wait, .poll]) := by
  obtain ⟨x, hx⟩ : ∃ x, Background.start (Instance.new Nodes.approvalGate)
      { message := some (Nodes.text "ok?") } 0 = .ok x := ⟨_, rfl⟩
  exact ⟨x.1, x.2, hx, by decide, handle_stream _ _ _ _ _ hx (by decide) _⟩

/-- An empty batch of answers is absorbed whatever the state, so it does not make an idle handle
busy: the approval gate's run, waited for, converges with its request pending and the handle
idle, and answering nothing leaves it idle. -/
theorem approval_gate_idle_after_empty_answers :
    ∃ inst₀ h₀, Background.start (Instance.new Nodes.approvalGate)
        { message := some (Nodes.text "draft") } 0 = .ok (inst₀, h₀) ∧
      (Client.run { inst := inst₀, handle := h₀ } [.wait]).inst.runState = .idleWithPendingRequests ∧
      (Client.run { inst := inst₀, handle := h₀ } [.wait]).inst.machine.respond [] =
        .ok ((Client.run { inst := inst₀, handle := h₀ } [.wait]).inst.machine, .absorbed) ∧
      (Client.run { inst := inst₀, handle := h₀ } [.wait, .respond [] 0]).handle.isIdle = true :=
  ⟨_, _, rfl, by decide, rfl, by decide⟩

/-! ## A background run without responses -/

/-- A synchronous run is the run started at any time `time` and taken to its end: the same
instance, the same events and the state it leaves the instance in. -/
theorem Instance.execute_eq_start (inst : Instance) (ds : List Delivery) (time : Nat) :
    inst.execute ds =
      ((Task.finish (Task.start inst ds time).1 (Task.start inst ds time).2.1 (Task.budget inst)).1,
        { events := ((Task.start inst ds time).2.2 ++
            (Task.finish (Task.start inst ds time).1 (Task.start inst ds time).2.1
              (Task.budget inst)).2.2).map (·.event),
          finalState := (Task.finish (Task.start inst ds time).1 (Task.start inst ds time).2.1
              (Task.budget inst)).1.runState }) := by
  -- the run from time 0 and the run from `time` differ only in their times
  have hsame : (Task.start inst ds time).2.1.SameRun (Task.start inst ds 0).2.1 := ⟨rfl, rfl⟩
  obtain ⟨hi, he, hs⟩ := hsame.finish (Task.start inst ds time).1 (Task.budget inst)
  have hd : (Task.finish (Task.start inst ds 0).1 (Task.start inst ds 0).2.1
      (Task.budget inst)).2.1.isDone = true :=
    Task.finish_budget_isDone (Task.start inst ds 0).1 (Nat.zero_le _)
  have hset : (Task.start inst ds 0).2.1.Settled (Task.start inst ds 0).1 :=
    Task.settled_of_not_done rfl
  have hfinal := (hset.finish (Task.budget inst)).finalState hd
  have hexec : inst.execute ds =
      ((Task.finish (Task.start inst ds 0).1 (Task.start inst ds 0).2.1 (Task.budget inst)).1,
        { events := ((Task.start inst ds 0).2.2 ++ (Task.finish (Task.start inst ds 0).1
            (Task.start inst ds 0).2.1 (Task.budget inst)).2.2).map (·.event),
          finalState := (Task.finish (Task.start inst ds 0).1 (Task.start inst ds 0).2.1
            (Task.budget inst)).2.1.finalState (Task.finish (Task.start inst ds 0).1
              (Task.start inst ds 0).2.1 (Task.budget inst)).1 }) := rfl
  rw [hexec, hi, List.map_append, List.map_append, he, hfinal.1]
  simp [Task.start]

namespace Client

/-- The client has followed the run `t₀` of the instance `inst₀`, begun with the events `opening`,
for some of its steps: its instance and task are the run's after those steps, and everything the
handle's runs produced is what the run produced so far. -/
def Follows (inst₀ : Instance) (t₀ : Task) (opening : List Stamped) (c : Client) : Prop :=
  ∃ k, c.inst = (Task.finish inst₀ t₀ k).1 ∧
    c.polled ++ c.handle.queue ++ c.handle.held.map (·.event) =
      (opening ++ (Task.finish inst₀ t₀ k).2.2).map (·.event) ∧
    (c.handle.task = some (Task.finish inst₀ t₀ k).2.1 ∨
      c.handle.task = none ∧ (Task.finish inst₀ t₀ k).2.1.isDone = true)

variable {g : Graph} {inst₀ : Instance} {t₀ : Task} {opening : List Stamped}

/-- A client that calls anything but `respond` keeps following the run. -/
theorem Follows.call {c : Client} (hf : c.Follows inst₀ t₀ opening) (hi : c.Inv g) (k : Call)
    (hk : ∀ rs time, k ≠ .respond rs time) : (c.call k).Follows inst₀ t₀ opening := by
  obtain ⟨n, hinst, hs, htask⟩ := hf
  cases k with
  | poll => exact ⟨n, hinst, by simpa [Client.call, Background.poll] using hs, htask⟩
  | complete =>
    exact ⟨n, hinst, by simpa [Client.call, Background.complete_eq] using hs,
      by simpa [Client.call, Background.complete_eq] using htask⟩
  | respond rs time => exact absurd rfl (hk rs time)
  | advance time =>
    rcases htask with ht | ⟨ht, hd⟩
    · generalize hF : Task.finish inst₀ t₀ n = F at hinst hs ht
      obtain ⟨j, -, hj⟩ := Task.advanceTo_eq_finish c.inst time F.2.1 (Task.budget c.inst)
      have hsum : Task.finish inst₀ t₀ (n + j) = ((Task.finish c.inst F.2.1 j).1,
          (Task.finish c.inst F.2.1 j).2.1, F.2.2 ++ (Task.finish c.inst F.2.1 j).2.2) :=
        Task.finish_add inst₀ (by rw [hF, hinst]) rfl
      simp only [Client.call, Background.advanceTo_of_task c.inst ht, hj]
      refine ⟨n + j, by rw [hsum], ?_, .inl (by rw [hsum])⟩
      rw [hsum]
      calc c.polled ++ (c.handle.queue ++ ((c.handle.held ++ (Task.finish c.inst F.2.1 j).2.2).takeWhile
              (·.time ≤ time)).map (·.event)) ++
            ((c.handle.held ++ (Task.finish c.inst F.2.1 j).2.2).dropWhile (·.time ≤ time)).map (·.event)
          = c.polled ++ c.handle.queue ++ c.handle.held.map (·.event) ++
              (Task.finish c.inst F.2.1 j).2.2.map (·.event) := by
            rw [List.append_assoc c.polled, List.append_assoc, ← List.map_append,
              List.takeWhile_append_dropWhile]
            simp
        _ = (opening ++ (F.2.2 ++ (Task.finish c.inst F.2.1 j).2.2)).map (·.event) := by
            rw [hs]
            simp
    · have hc : c.call (.advance time) = c := by simp [Client.call, Background.advanceTo, ht]
      rw [hc]
      exact ⟨n, hinst, hs, .inr ⟨ht, hd⟩⟩
  | wait =>
    rcases htask with ht | ⟨ht, hd⟩
    · obtain ⟨hg, -, _, _, _, _, _, hlive, _⟩ := hi
      generalize hF : Task.finish inst₀ t₀ n = F at hinst hs ht
      obtain ⟨⟨initial, id, htr⟩, -, -, -, -⟩ := hlive _ ht
      have hdone := Task.finish_budget_isDone c.inst (t := F.2.1)
        (by rw [hg]; exact htr.supersteps_le)
      have hsum : Task.finish inst₀ t₀ (n + Task.budget c.inst) =
          ((Task.finish c.inst F.2.1 (Task.budget c.inst)).1,
            (Task.finish c.inst F.2.1 (Task.budget c.inst)).2.1,
            F.2.2 ++ (Task.finish c.inst F.2.1 (Task.budget c.inst)).2.2) :=
        Task.finish_add inst₀ (by rw [hF, hinst]) rfl
      simp only [Client.call, Background.wait_of_task c.inst ht]
      refine ⟨n + Task.budget c.inst, by rw [hsum], ?_, .inr ⟨rfl, by rw [hsum]; exact hdone⟩⟩
      rw [hsum]
      calc c.polled ++ (c.handle.queue ++ (c.handle.held ++
              (Task.finish c.inst F.2.1 (Task.budget c.inst)).2.2).map (·.event)) ++
            ([] : List Stamped).map (·.event)
          = c.polled ++ c.handle.queue ++ c.handle.held.map (·.event) ++
              (Task.finish c.inst F.2.1 (Task.budget c.inst)).2.2.map (·.event) := by simp
        _ = (opening ++ (F.2.2 ++ (Task.finish c.inst F.2.1 (Task.budget c.inst)).2.2)).map
              (·.event) := by
            rw [hs]
            simp
    · have hc : c.call .wait = c := by simp [Client.call, Background.wait, ht]
      rw [hc]
      exact ⟨n, hinst, hs, .inr ⟨ht, hd⟩⟩

theorem Follows.run {c : Client} (hf : c.Follows inst₀ t₀ opening) (hi : c.Inv g)
    (hmax : 0 < g.maxSupersteps) (calls : List Call) (hcalls : ∀ k ∈ calls, ∀ rs time, k ≠ .respond rs time) :
    (c.run calls).Follows inst₀ t₀ opening := by
  induction calls generalizing c with
  | nil => exact hf
  | cons k calls ih =>
    exact ih (hf.call hi k (hcalls k (List.mem_cons_self ..)))
      (hi.call hmax k) fun k' hk' => hcalls k' (List.mem_cons_of_mem _ hk')

end Client

/-- **A background run without responses is the synchronous run.** On a graph with a superstep
limit, for a handle that a run request started at any time and a client that makes any calls but
`respond`: once the handle is idle, the events polled and those of one more poll are exactly the
events the synchronous run of the same request on the same instance returns, and the instance
is the one that run leaves, in the terminal state it returns. -/
theorem background_matches_execute (inst inst₀ : Instance) (h₀ : Background) (req : RunRequest)
    (time : Nat) (calls : List Call) (hstart : Background.start inst req time = .ok (inst₀, h₀))
    (hmax : 0 < inst.graph.maxSupersteps) (hcalls : ∀ k ∈ calls, ∀ rs t, k ≠ .respond rs t)
    (hidle : (Client.run { inst := inst₀, handle := h₀ } calls).handle.isIdle = true) :
    inst.run req = .ok ((Client.run { inst := inst₀, handle := h₀ } calls).inst,
      { events := ((Client.run { inst := inst₀, handle := h₀ } calls).call .poll).polled,
        finalState := (Client.run { inst := inst₀, handle := h₀ } calls).inst.runState }) := by
  have hi := (Client.inv_start hstart).run hmax calls
  have hheld := (hi.report hmax).idle hidle
  obtain ⟨inst', ds, hb, rfl, rfl⟩ := Background.start_eq_ok hstart
  have h0 : Client.Follows (Task.start inst' ds time).1 (Task.start inst' ds time).2.1
      (Task.start inst' ds time).2.2
        { inst := (Task.start inst' ds time).1,
          handle := { held := (Task.start inst' ds time).2.2,
                      task := some (Task.start inst' ds time).2.1 } } :=
    ⟨0, rfl, by simp [Task.finish], .inl rfl⟩
  have hf := h0.run (Client.inv_start hstart) hmax calls hcalls
  generalize Client.run _ calls = c at hi hheld hidle hf ⊢
  obtain ⟨k, hinst, hs, htask⟩ := hf
  have hdone : (Task.finish (Task.start inst' ds time).1 (Task.start inst' ds time).2.1 k).2.1.isDone =
      true := by
    rcases htask with ht | ⟨-, hd⟩
    · exact hi.done_of_idle ht hidle
    · exact hd
  have hend : Task.finish (Task.start inst' ds time).1 (Task.start inst' ds time).2.1 k =
      Task.finish (Task.start inst' ds time).1 (Task.start inst' ds time).2.1 (Task.budget inst') :=
    Task.finish_eq_of_isDone _ hdone (Task.finish_budget_isDone _ (Nat.zero_le _))
  have hrun : inst.run req = .ok (inst'.execute ds) := by
    simp [Instance.run, hb, bind, Except.bind, pure, Except.pure]
  have hpoll : (c.call .poll).polled = c.polled ++ c.handle.queue := rfl
  rw [hheld, List.map_nil, List.append_nil] at hs
  rw [hrun, Instance.execute_eq_start inst' ds time, ← hend, ← hinst, hpoll, hs]

/-- A client of the approval gate lets the run go, polls and waits: the background run is the
synchronous one. -/
theorem approval_gate_background_matches :
    ∃ inst₀ h₀, Background.start (Instance.new Nodes.approvalGate)
        { message := some (Nodes.text "ok?") } 0 = .ok (inst₀, h₀) ∧
      0 < (Instance.new Nodes.approvalGate).graph.maxSupersteps ∧
      (∀ k ∈ [Call.advance 3, .poll, .wait], ∀ rs t, k ≠ .respond rs t) ∧
      (Client.run { inst := inst₀, handle := h₀ } [.advance 3, .poll, .wait]).handle.isIdle = true ∧
      (Instance.new Nodes.approvalGate).run { message := some (Nodes.text "ok?") } =
        .ok ((Client.run { inst := inst₀, handle := h₀ } [.advance 3, .poll, .wait]).inst,
          { events := ((Client.run { inst := inst₀, handle := h₀ }
              [.advance 3, .poll, .wait]).call .poll).polled,
            finalState := (Client.run { inst := inst₀, handle := h₀ }
              [.advance 3, .poll, .wait]).inst.runState }) := by
  obtain ⟨x, hx⟩ : ∃ x, Background.start (Instance.new Nodes.approvalGate)
      { message := some (Nodes.text "ok?") } 0 = .ok x := ⟨_, rfl⟩
  have hcalls : ∀ k ∈ [Call.advance 3, .poll, .wait], ∀ rs t, k ≠ .respond rs t := by simp
  have hidle : (Client.run { inst := x.1, handle := x.2 } [.advance 3, .poll, .wait]).handle.isIdle =
      true := by
    simp [Client.run, Background.isIdle, Client.call_wait_task]
  exact ⟨x.1, x.2, hx, by decide, hcalls, hidle,
    background_matches_execute _ _ _ _ _ _ hx (by decide) hcalls hidle⟩

end Superstep
