import Mathlib
import Superstep.Proofs.Trace

/-!
# Where a synchronous run leaves its requests

A synchronous run (`Instance.execute`) settles its requests (`Instance.Settles`): it leaves the
instance in its terminal state; a run that failed leaves no request pending; and a run that
converged leaves the requests that were pending when it started followed by those its
`request_info` events reported, in order, and ends `IDLE_WITH_PENDING_REQUESTS` exactly when
there are any.

The steps of the run keep this account one at a time (`Task.Ledgered.step`): a failure clears
it, a superstep adds the requests its handlers made, and the end of a superstep leaves it alone.
The run's budget of steps takes it to its end (`Task.finish_budget_isDone`).
-/

namespace Superstep

/-- How a finished run left its instance `inst` and its requests, from the requests `base`
pending when it started. -/
structure Instance.Settles (base : List Request) (inst : Instance) (r : RunResult) : Prop where
  state : inst.runState = r.finalState
  failed : r.finalState = .failed → inst.pending = []
  converged : r.finalState ≠ .failed →
    inst.pending = base ++ r.events.filterMap Event.request? ∧
      r.finalState = if inst.pending.isEmpty then .idle else .idleWithPendingRequests

namespace Instance.Settles

variable {base : List Request} {inst : Instance} {r : RunResult}

/-- A run that ends waiting for responses leaves the requests pending before it and those it
reported, and there is one. -/
theorem waiting (h : Settles base inst r) (hw : r.finalState = .idleWithPendingRequests) :
    inst.pending = base ++ r.events.filterMap Event.request? ∧ inst.pending ≠ [] := by
  have hconv := h.converged (by rw [hw]; simp)
  refine ⟨hconv.1, fun h0 => ?_⟩
  have h2 := hconv.2
  simp [h0, hw] at h2

/-- A run that ends otherwise ends `IDLE` or `FAILED`, and leaves no request. -/
theorem done (h : Settles base inst r) (hw : r.finalState ≠ .idleWithPendingRequests) :
    (r.finalState = .idle ∨ r.finalState = .failed) ∧ inst.pending = [] := by
  by_cases hfail : r.finalState = .failed
  · exact ⟨.inr hfail, h.failed hfail⟩
  · have hconv := h.converged hfail
    have hempty : inst.pending = [] := by
      by_contra h0
      exact hw (by simp [hconv.2, h0])
    exact ⟨.inl (by simp [hconv.2, hempty]), hempty⟩

end Instance.Settles

/-- What one step does to the pending requests: it clears them when it fails the run, and
otherwise appends the ones it registers. -/
theorem StepEffect.pending_eq {inst : Instance} {t t' : Task} {m' : Machine}
    {regs : List Request} (e : StepEffect inst t m' t' regs) :
    m'.pending = if t'.failed then [] else inst.machine.pending ++ regs := by
  cases e with
  | fail hf _ _ _ => simp [hf, Machine.fail]
  | superstep regs hf _ _ _ => simp [hf]
  | converge hf _ _ _ => simp [hf]

namespace Task

/-- The requests of a run so far: none once the run failed, and otherwise those pending when it
started followed by those its events reported. -/
def Ledgered (base : List Request) (inst : Instance) (t : Task) (events : List Event) : Prop :=
  inst.pending = if t.failed then [] else base ++ events.filterMap Event.request?

theorem failed_of_not_done {t : Task} (h : t.isDone = false) : t.failed = false := by
  rcases t with ⟨n, _ | _ | _, c⟩ <;> simp_all [isDone, dueAt, failed]

variable {base : List Request}

theorem Ledgered.step {inst : Instance} {t : Task} {events : List Event}
    (h : Ledgered base inst t events) :
    Ledgered base (step inst t).1 (step inst t).2.1
      (events ++ (step inst t).2.2.map (·.event)) := by
  cases hd : t.isDone with
  | true => simpa [step_of_isDone inst hd] using h
  | false =>
    obtain ⟨regs, he, hreqs⟩ := step_effect inst hd
    have hbefore : inst.pending = base ++ events.filterMap Event.request? := by
      simpa [Ledgered, failed_of_not_done hd] using h
    rw [Ledgered, Instance.pending, he.pending_eq, List.filterMap_append, hreqs,
      ← Instance.pending, hbefore, List.append_assoc]

theorem Ledgered.finish {inst : Instance} {t : Task} {events : List Event}
    (h : Ledgered base inst t events) (n : Nat) :
    Ledgered base (finish inst t n).1 (finish inst t n).2.1
      (events ++ (finish inst t n).2.2.map (·.event)) := by
  induction n generalizing inst t events with
  | zero => simpa [Task.finish] using h
  | succ n ih =>
    cases hd : t.isDone with
    | true => simpa [finish_of_isDone inst hd] using h
    | false =>
      rw [finish_succ_of_not_done inst hd]
      simpa using ih h.step

end Task

namespace Instance

/-- **A synchronous run settles its requests**, whatever its graph and its first deliveries: it
ends in its terminal state, with no request pending when it failed, and otherwise with the
requests pending before it followed by those it reported, waiting for responses exactly when
there are any. -/
theorem execute_settles (inst : Instance) (initial : List Delivery) :
    Settles inst.pending (inst.execute initial).1 (inst.execute initial).2 := by
  have hstart : (Task.start inst initial 0).2.1.Ledgered inst.pending (Task.start inst initial 0).1
      ((Task.start inst initial 0).2.2.map (·.event)) := by
    simp [Task.Ledgered, Task.start, Task.failed, Instance.pending, Event.request?]
  generalize hs : Task.start inst initial 0 = s at hstart
  have hdone : (Task.finish s.1 s.2.1 (Task.budget s.1)).2.1.isDone = true :=
    Task.finish_budget_isDone s.1 (by rw [← hs]; exact Nat.zero_le _)
  have hled := hstart.finish (Task.budget s.1)
  have hsettled : Task.Settled s.1 s.2.1 := Task.settled_of_not_done (by rw [← hs]; rfl)
  have hset := hsettled.finish (Task.budget s.1)
  generalize hf : Task.finish s.1 s.2.1 (Task.budget s.1) = f at hdone hled hset
  have hexec : inst.execute initial =
      (f.1, ⟨(s.2.2 ++ f.2.2).map (·.event), f.2.1.finalState f.1⟩) := by
    rw [← hf, ← hs]
    rfl
  rcases hp : f.2.1.phase with next | ⟨next, failure, endsAt⟩ | st
  · simp [Task.isDone, Task.dueAt, hp] at hdone
  · simp [Task.isDone, Task.dueAt, hp] at hdone
  obtain ⟨hstate, hrule⟩ := hset st hp
  have hfinal : f.2.1.finalState f.1 = st := by simp [Task.finalState, hp]
  have hfailed : f.2.1.failed = (st == .failed) := by
    cases st <;> simp [Task.failed, hp]
  have hpend : f.1.pending = if st = .failed then [] else
      inst.pending ++ ((s.2.2 ++ f.2.2).map (·.event)).filterMap Event.request? := by
    simpa [Task.Ledgered, hfailed] using hled
  rw [hexec, hfinal]
  refine ⟨hstate, fun h => ?_, fun h => ⟨?_, hrule.resolve_left h⟩⟩
  · have hst : st = .failed := h
    simpa [hst] using hpend
  · have hst : st ≠ .failed := h
    simpa [hst] using hpend

/-- A run that starts runs to its end. -/
theorem run_of_begin {inst inst' : Instance} {req : RunRequest} {initial : List Delivery}
    (h : inst.begin req = .ok (inst', initial)) : inst.run req = .ok (inst'.execute initial) := by
  simp [run, h, bind, Except.bind, pure, Except.pure]

/-- A run that starts settles its requests from those its start left pending. -/
theorem run_settles_of_begin {inst inst' : Instance} {req : RunRequest} {initial : List Delivery}
    {base : List Request} (h : inst.begin req = .ok (inst', initial)) (hbase : inst'.pending = base) :
    ∃ i r, inst.run req = .ok (i, r) ∧ i.Settles base r := by
  subst hbase
  exact ⟨(inst'.execute initial).1, (inst'.execute initial).2, run_of_begin h,
    execute_settles inst' initial⟩

end Instance

end Superstep
