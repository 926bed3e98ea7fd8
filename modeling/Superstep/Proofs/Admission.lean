import Mathlib
import Superstep.Proofs.RunState

/-!
# Admitting a run, and clearing the stores

A run is admitted by one check-and-start on the instance (`Instance.begin`), made under the
instance's lock. Its checks come in a fixed order, and the first that fails decides the error
(`Instance.Refuses`): a first message together with responses, then no input at all (an empty
list of responses counts as none); for a first message, a run already in flight, then a kind the
start executor does not accept; for responses, a run already in flight, then the first offending
response of the batch (`Machine.Refused`). A refused start returns no instance, so in a world of
runs (`World`) it changes nothing, reports nothing and starts no run.

Clearing the executors' stores (`Instance.reset`) is refused exactly while a run is in flight;
otherwise it empties every store and changes nothing else.

The main statement is `entry_points_atomic`.
-/

namespace Superstep

namespace Instance

variable {inst : Instance} {req : RunRequest} {m : Message} {rs : List (String × Message)}

/-! ## Which start is refused, and why -/

/-- A start refused with error `e`: the first check that fails, in the order they are made. -/
inductive Refuses (inst : Instance) (req : RunRequest) : FlowError → Prop
  /-- A first message and responses that are not empty. -/
  | conflicting {m : Message} {rs : List (String × Message)} : req.message = some m →
      req.responses = some rs → rs ≠ [] → Refuses inst req .conflictingInput
  /-- Neither a first message nor responses; an empty list of responses counts as none. -/
  | missing : req.message = none → (∀ rs ∈ req.responses, rs = []) →
      Refuses inst req .missingInput
  /-- A first message while a run is in flight. -/
  | running {m : Message} : req.message = some m → (∀ rs ∈ req.responses, rs = []) →
      inst.runState = .running → Refuses inst req .concurrentRunRejected
  /-- A first message whose kind the start executor does not handle. -/
  | unsupported {m : Message} : req.message = some m → (∀ rs ∈ req.responses, rs = []) →
      inst.runState ≠ .running → inst.graph.startAccepts m.kind = false →
      Refuses inst req (.workflow (.unsupportedMessage inst.graph.start m.kind))
  /-- Responses while a run is in flight, before the batch is looked at. -/
  | resumeRunning {rs : List (String × Message)} : req.message = none →
      req.responses = some rs → rs ≠ [] → inst.runState = .running →
      Refuses inst req .concurrentRunRejected
  /-- Responses of which one is refused: the error of the first offending response. -/
  | resumeRefused {rs : List (String × Message)} {e : FlowError} : req.message = none →
      req.responses = some rs → rs ≠ [] → inst.runState ≠ .running →
      Machine.Refused inst.pending rs e → Refuses inst req e

/-- **A start fails exactly with the error of its first failing check.** -/
theorem begin_eq_error_iff {e : FlowError} : inst.begin req = .error e ↔ inst.Refuses req e := by
  constructor
  · intro h
    rcases req.shape with ⟨m, rs, hm, hrs, hne⟩ | ⟨hm, hrs⟩ | ⟨m, hm, hrs⟩ | ⟨rs, hm, hrs, hne⟩
    · rw [begin_of_conflicting hm hrs hne, Except.error.injEq] at h
      exact h ▸ .conflicting hm hrs hne
    · rw [begin_of_missing hm hrs, Except.error.injEq] at h
      exact h ▸ .missing hm hrs
    · rw [begin_of_message hm hrs] at h
      split_ifs at h with hr hacc
      · cases h
        exact .running hm hrs hr
      · cases h
        exact .unsupported hm hrs hr (by simpa using hacc)
    · rw [begin_of_responses hm hrs hne] at h
      by_cases hr : inst.machine.state = .running
      · rw [Machine.beginWithResponses_of_running hr] at h
        cases h
        exact .resumeRunning hm hrs hne hr
      · cases hb : inst.machine.beginWithResponses rs with
        | error e' =>
          rw [hb] at h
          cases h
          exact .resumeRefused hm hrs hne hr ((Machine.beginWithResponses_eq_error_iff hr).1 hb)
        | ok r => simp [hb, Except.map] at h
  · intro h
    cases h with
    | conflicting hm hrs hne => exact begin_of_conflicting hm hrs hne
    | missing hm hrs => exact begin_of_missing hm hrs
    | running hm hrs hr => simp [begin_of_message hm hrs, hr]
    | unsupported hm hrs hr hacc => simp [begin_of_message hm hrs, hr, hacc]
    | resumeRunning hm hrs hne hr =>
      rw [begin_of_responses hm hrs hne, Machine.beginWithResponses_of_running hr]
      rfl
    | resumeRefused hm hrs hne hr hrf =>
      rw [begin_of_responses hm hrs hne, (Machine.beginWithResponses_eq_error_iff hr).2 hrf]
      rfl

/-! ## Clearing the stores -/

/-- The instance with every executor's store emptied. -/
theorem reset_of_not_running (h : inst.runState ≠ .running) :
    inst.reset = .ok { inst with stores := inst.stores.map fun p => (p.1, []) } := by
  unfold reset
  rw [if_neg h]

theorem reset_eq_error_iff {e : FlowError} :
    inst.reset = .error e ↔ inst.runState = .running ∧ e = .concurrentRunRejected := by
  by_cases h : inst.runState = .running
  · simp [reset, h, eq_comm]
  · simp [reset_of_not_running h, h]

/-- With every store empty, every executor finds an empty store. -/
theorem storeOf_of_forall_nil (h : ∀ p ∈ inst.stores, p.2 = []) (x : String) :
    inst.storeOf x = [] := by
  unfold storeOf
  cases hf : inst.stores.find? (·.1 == x) with
  | none => rfl
  | some p => simpa using h p (List.mem_of_find?_eq_some hf)

/-- After clearing, every store is empty, whichever executor is asked for. -/
theorem storeOf_cleared (x : String) :
    ({ inst with stores := inst.stores.map fun p => (p.1, []) } : Instance).storeOf x = [] := by
  refine storeOf_of_forall_nil (fun p hp => ?_) x
  obtain ⟨q, -, rfl⟩ := List.mem_map.1 hp
  rfl

end Instance

namespace World

variable {w : World} {req : RunRequest} {time : Nat}

/-- A refused start changes nothing, reports nothing and starts no run. -/
theorem apply_begin_of_refuses {e : FlowError} (h : w.inst.Refuses req e) :
    w.apply (.begin req time) = (w, []) := by
  have hs : Background.start w.inst req time = .error e :=
    Background.start_eq_error_iff.2 (Instance.begin_eq_error_iff.2 h)
  simp [apply, hs]

/-- A refused reset changes nothing. -/
theorem apply_reset_of_running (h : w.inst.runState = .running) : w.apply .reset = (w, []) := by
  simp [apply, Instance.reset, h]

end World

/-- **Starting a run and clearing the stores are atomic, and their checks come in a fixed order.**
For every world and every run request, a synchronous run and a run in the background fail exactly
with the error of the first failing check (`Instance.Refuses`): both a message and responses, no
input at all, a message while a run is in flight, a message the start executor does not accept,
responses while a run is in flight, or the batch's first offending response. A refused start
changes nothing in the world (run state, pending and absorbed tables, stores, runs), reports no
event and starts no run. Any other start begins a run: only the machine changes, and it is
`RUNNING`; a run from a first message abandons every pending request and absorbed response and
sends the message to the start executor. Clearing the stores is refused, as a second run and
changing nothing, exactly while a run is in flight; otherwise it empties every executor's store,
keeps the executors, and changes nothing else. -/
theorem entry_points_atomic (w : World) (req : RunRequest) (time : Nat) :
    (∀ e, w.inst.run req = .error e ↔ w.inst.Refuses req e) ∧
    (∀ e, Background.start w.inst req time = .error e ↔ w.inst.Refuses req e) ∧
    (∀ e, w.inst.Refuses req e → w.apply (.begin req time) = (w, [])) ∧
    ((∀ e, ¬ w.inst.Refuses req e) → ∃ (machine : Machine) (ds : List Delivery),
      w.inst.begin req = .ok ({ w.inst with machine }, ds) ∧ machine.state = .running ∧
      ∀ m, req.message = some m →
        machine.pending = [] ∧ machine.injected = [] ∧ ds = [.message w.inst.graph.start m]) ∧
    (∀ e, w.inst.reset = .error e ↔ w.inst.runState = .running ∧ e = .concurrentRunRejected) ∧
    (w.inst.runState = .running → w.apply .reset = (w, [])) ∧
    (w.inst.runState ≠ .running → ∃ stores : List (String × List (String × Value)),
      w.apply .reset = (⟨{ w.inst with stores }, w.runs⟩, []) ∧
      stores.map Prod.fst = w.inst.stores.map Prod.fst ∧
      ∀ x, ({ w.inst with stores } : Instance).storeOf x = []) := by
  refine ⟨fun e => Instance.run_eq_error_iff.trans Instance.begin_eq_error_iff,
    fun e => Background.start_eq_error_iff.trans Instance.begin_eq_error_iff,
    fun e => World.apply_begin_of_refuses, fun hnot => ?_, fun e => Instance.reset_eq_error_iff,
    World.apply_reset_of_running, fun hr => ?_⟩
  · cases hb : w.inst.begin req with
    | error e => exact absurd (Instance.begin_eq_error_iff.1 hb) (hnot e)
    | ok r =>
      obtain ⟨inst', ds⟩ := r
      obtain ⟨hidle, machine, rfl, hcases⟩ := Instance.begin_eq_ok hb
      refine ⟨machine, ds, rfl, ?_, fun m hm => ?_⟩
      · rcases hcases with ⟨m, -, rfl, -⟩ | ⟨rs, -, -, -, -, rfl, -⟩ <;> rfl
      · rcases hcases with ⟨m', hm', rfl, rfl⟩ | ⟨rs, hm', -⟩
        · obtain rfl : m = m' := Option.some.inj (hm.symm.trans hm')
          exact ⟨rfl, rfl, rfl⟩
        · simp [hm] at hm'
  · refine ⟨_, by simp [World.apply, Instance.reset_of_not_running hr], by simp,
      Instance.storeOf_cleared⟩

end Superstep
