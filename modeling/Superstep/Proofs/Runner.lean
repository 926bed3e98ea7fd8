import Mathlib
import Superstep.Engine.Run

/-!
# What the steps of a run do to the run-state machine

Whatever its handlers do, a step of a run touches its instance's run-state machine in one of
three ways (`StepEffect`): it fails the run; it runs the handlers of a superstep, which register
the requests they made and change nothing else of the machine; or it ends a superstep
(`Machine.converge`), which ends the run when nothing is left to deliver. Every request a step
registers is reported by one `request_info` event of the step, in the order registered
(`Task.step_effect`). Starting a run leaves the machine alone, and dropping one abandons it
unless it has ended.

`Task.step_cases` says the same with what a step does to the run's deliveries: a superstep hands
its deliveries to the handlers and leaves only messages for the next one; the end of a superstep
puts the absorbed responses after the next superstep's deliveries; a failure drops them all.
-/

namespace Superstep

/-- The request a `request_info` event reports. -/
def Event.request? : Event → Option Request
  | .requestInfo id source data kind => some ⟨id, source, data, kind⟩
  | _ => none

theorem Event.filterMap_requestId? (es : List Event) :
    es.filterMap Event.requestId? = (es.filterMap Event.request?).map (·.requestId) := by
  rw [List.map_filterMap]
  congr 1
  funext e
  cases e <;> rfl

/-- Whether a delivery is the response to a request. -/
def Delivery.isResponse : Delivery → Bool
  | .message .. => false
  | .response .. => true

/-- The requests among a handler's effects, in the order made. -/
def Effect.requests : List Effect → List Request
  | [] => []
  | .output _ :: rest => Effect.requests rest
  | .request r :: rest => r :: Effect.requests rest

/-- Appends requests to the pending table, as registering them one by one does. -/
def Machine.registerAll (m : Machine) (rs : List Request) : Machine :=
  { m with pending := m.pending ++ rs }

@[simp] theorem Machine.registerAll_state (m : Machine) (rs : List Request) :
    (m.registerAll rs).state = m.state := rfl

@[simp] theorem Machine.registerAll_pending (m : Machine) (rs : List Request) :
    (m.registerAll rs).pending = m.pending ++ rs := rfl

@[simp] theorem Machine.registerAll_injected (m : Machine) (rs : List Request) :
    (m.registerAll rs).injected = m.injected := rfl

theorem Machine.registerAll_append (m : Machine) (rs rs' : List Request) :
    (m.registerAll rs).registerAll rs' = m.registerAll (rs ++ rs') := by
  simp [Machine.registerAll]

namespace Instance

variable (inst : Instance)

@[simp] theorem dispatch_machine (n : Nat) (d : Delivery) :
    (inst.dispatch n d).1.machine = inst.machine := by
  unfold dispatch
  rcases d with ⟨t, m⟩ | ⟨t, rid, q, r⟩ <;> dsimp only [Delivery.target] <;> split <;> rfl

/-- Publishing registers the requests among the effects and changes nothing else. -/
theorem publish_fst (source : String) (effects : List Effect) :
    (publish source inst effects).1 =
      { inst with machine := inst.machine.registerAll (Effect.requests effects) } := by
  induction effects generalizing inst with
  | nil => simp [publish, Effect.requests, Machine.registerAll]
  | cons e rest ih =>
    cases e with
    | output v => simp [publish, Effect.requests, ih]
    | request r =>
      simp only [publish, Effect.requests, ih]
      simp [Machine.register, Machine.registerAll]

/-- Each request published is reported by one `request_info` event, in order. -/
theorem publish_requests (source : String) (effects : List Effect) :
    (publish source inst effects).2.filterMap Event.request? = Effect.requests effects := by
  induction effects generalizing inst with
  | nil => rfl
  | cons e rest ih =>
    cases e with
    | output v =>
      show (Event.output source v :: (publish source inst rest).2).filterMap _ = _
      rw [List.filterMap_cons_none rfl, ih]
      rfl
    | request r => simp [publish, Effect.requests, Event.request?, ih]

/-- The messages a handler sent are delivered as messages. -/
theorem routeAll_responses (g : Graph) (source : String) (outbox : List Outgoing) :
    (Instance.routeAll g source outbox).filter (·.isResponse) = [] := by
  simp [Instance.routeAll, List.filter_flatMap, Delivery.isResponse]

/-- Delivering one delivery registers the requests its handler made, each reported by one
`request_info` event, and adds only messages to the next superstep. -/
theorem deliver_registers (n : Nat) (s : Step) (d : Delivery) :
    ∃ regs, (deliver n s d).inst.machine = s.inst.machine.registerAll regs ∧
      ((deliver n s d).events.map (·.event)).filterMap Event.request? =
        (s.events.map (·.event)).filterMap Event.request? ++ regs ∧
      (deliver n s d).next.filter (·.isResponse) = s.next.filter (·.isResponse) := by
  refine ⟨Effect.requests (s.inst.dispatch n d).2.effects, ?_, ?_, ?_⟩
  · simp [deliver, publish_fst]
  · simp only [deliver, List.map_append, List.map_cons, List.map_nil, List.map_map,
      Function.comp_def, List.filterMap_append, List.filterMap_cons, Event.request?]
    simp [publish_requests]
  · simp only [deliver]
    split <;> simp [List.filter_append, routeAll_responses]

/-- Running the handlers of a list of deliveries registers the requests they made, each reported
by one `request_info` event, in order, and adds only messages to the next superstep. -/
theorem foldl_deliver_registers (n : Nat) (current : List Delivery) (s : Step) :
    ∃ regs, (current.foldl (deliver n) s).inst.machine = s.inst.machine.registerAll regs ∧
      ((current.foldl (deliver n) s).events.map (·.event)).filterMap Event.request? =
        (s.events.map (·.event)).filterMap Event.request? ++ regs ∧
      (current.foldl (deliver n) s).next.filter (·.isResponse) =
        s.next.filter (·.isResponse) := by
  induction current generalizing s with
  | nil => exact ⟨[], by simp [Machine.registerAll], by simp, rfl⟩
  | cons d rest ih =>
    obtain ⟨regs, hm, he, hn⟩ := deliver_registers n s d
    obtain ⟨regs', hm', he', hn'⟩ := ih (deliver n s d)
    refine ⟨regs ++ regs', ?_, ?_, ?_⟩
    · rw [List.foldl_cons, hm', hm, Machine.registerAll_append]
    · rw [List.foldl_cons, he', he, List.append_assoc]
    · rw [List.foldl_cons, hn', hn]

/-- A superstep registers the requests its handlers made, each reported by one `request_info`
event of the superstep, in order; the deliveries it leaves for the next superstep are
messages. -/
theorem superstep_registers (n start : Nat) (current : List Delivery) :
    ∃ regs, (inst.superstep n start current).inst.machine = inst.machine.registerAll regs ∧
      ((inst.superstep n start current).events.map (·.event)).filterMap Event.request? = regs ∧
      (inst.superstep n start current).next.filter (·.isResponse) = [] := by
  obtain ⟨regs, hm, he, hn⟩ :=
    foldl_deliver_registers n current ⟨inst, [⟨start, .superstepStarted n⟩], start, [], none⟩
  refine ⟨regs, hm, ?_, by simpa [superstep] using hn⟩
  simp [superstep, he, List.filterMap_cons, Event.request?]

@[simp] theorem failRun_machine (time : Nat) (details : Failure) :
    (inst.failRun time details).1.machine = inst.machine.fail := rfl

theorem failRun_requests (time : Nat) (details : Failure) :
    ((inst.failRun time details).2.map (·.event)).filterMap Event.request? = [] := rfl

end Instance

namespace Machine

/-- The machine after a superstep ends: nothing absorbed is left, and with nothing to deliver the
run ends `IDLE`, or `IDLE_WITH_PENDING_REQUESTS` while requests wait. -/
theorem converge_fst (m : Machine) (next : List Delivery) :
    (m.converge next).1 = if (next ++ m.injected).isEmpty then
      { m with injected := [],
               state := if m.pending.isEmpty then .idle else .idleWithPendingRequests }
    else { m with injected := [] } := by
  by_cases h : (next ++ m.injected).isEmpty <;> simp [converge, h]

@[simp] theorem converge_pending (m : Machine) (next : List Delivery) :
    (m.converge next).1.pending = m.pending := by
  rw [converge_fst]
  split <;> rfl

@[simp] theorem converge_injected (m : Machine) (next : List Delivery) :
    (m.converge next).1.injected = [] := by
  rw [converge_fst]
  split <;> rfl

/-- A superstep end reports the terminal state when nothing is left to deliver, and otherwise
the next superstep's deliveries, absorbed responses last. -/
theorem converge_snd (m : Machine) (next : List Delivery) :
    (m.converge next).2 = if (next ++ m.injected).isEmpty then
      .error (if m.pending.isEmpty then .idle else .idleWithPendingRequests)
    else .ok (next ++ m.injected) := by
  by_cases h : (next ++ m.injected).isEmpty <;> simp [converge, h]

end Machine

/-- The deliveries a run holds for its next superstep. -/
def Task.upcoming (t : Task) : List Delivery :=
  match t.phase with
  | .ready next => next
  | .closing next _ _ => next
  | .done _ => []

/-- The deliveries the run's next step hands to the handlers: those of the superstep it starts,
unless the run is out of supersteps. -/
def Task.dispatched (inst : Instance) (t : Task) : List Delivery :=
  match t.phase with
  | .ready next => if inst.graph.maxSupersteps ≤ t.supersteps then [] else next
  | _ => []

/-- Whether the run ended failed. -/
def Task.failed (t : Task) : Bool :=
  match t.phase with
  | .done .failed => true
  | _ => false

/-- What one step of the run `t` can do to it and to the run-state machine, with the requests it
registers. -/
inductive StepEffect (inst : Instance) (t : Task) : Machine → Task → List Request → Prop
  /-- The run fails: it ran out of supersteps, or a handler of its superstep failed. The
  deliveries it held are dropped. -/
  | fail {t' : Task} : t'.failed = true → t'.isDone = true → t'.upcoming = [] →
      t.dispatched inst = [] → StepEffect inst t inst.machine.fail t' []
  /-- A superstep starts: its handlers get the run's deliveries and register the requests they
  made, and only messages are left for the next superstep. -/
  | superstep {t' : Task} (regs : List Request) : t'.failed = false → t'.isDone = false →
      t.dispatched inst = t.upcoming → t'.upcoming.filter (·.isResponse) = [] →
      StepEffect inst t (inst.machine.registerAll regs) t' regs
  /-- A superstep ends: the absorbed responses join the next superstep's deliveries, after them,
  and the run ends when there are none. -/
  | converge {t' : Task} : t'.failed = false →
      t'.isDone = !(inst.machine.converge t.upcoming).2.toBool → t.dispatched inst = [] →
      t'.upcoming = t.upcoming ++ inst.machine.injected →
      StepEffect inst t (inst.machine.converge t.upcoming).1 t' []

namespace Task

variable (inst : Instance)

/-- A run that is over takes no more steps. -/
theorem step_of_isDone {t : Task} (h : t.isDone = true) : step inst t = (inst, t, []) := by
  rcases t with ⟨n, _ | _ | _, c⟩
  · simp [isDone, dueAt] at h
  · simp [isDone, dueAt] at h
  · rfl

/-- The end of a superstep never fails the run. -/
private theorem converge_not_failed (m : Machine) (next : List Delivery) {s : RunState}
    (h : (m.converge next).2 = .error s) : s ≠ .failed := by
  rw [Machine.converge_snd] at h
  split at h <;> simp only [Except.error.injEq, reduceCtorEq] at h
  subst h
  split <;> simp

/-- **One step of a run that is not over**: it fails the run, runs a superstep, or ends one
(`StepEffect`); the requests it registers are the ones its `request_info` events report. -/
theorem step_effect {t : Task} (h : t.isDone = false) :
    ∃ regs, StepEffect inst t (step inst t).1.machine (step inst t).2.1 regs ∧
      ((step inst t).2.2.map (·.event)).filterMap Event.request? = regs := by
  rcases t with ⟨n, next | ⟨next, failure, endsAt⟩ | state, c⟩
  · simp only [step]
    split
    · exact ⟨[], .fail rfl rfl rfl (if_pos ‹_›), inst.failRun_requests ..⟩
    · obtain ⟨regs, hm, he, hn⟩ := inst.superstep_registers (n + 1) c next
      exact ⟨regs, hm ▸ .superstep regs rfl rfl (if_neg ‹_›) hn, he⟩
  · cases failure with
    | some details => exact ⟨[], .fail rfl rfl rfl rfl, inst.failRun_requests ..⟩
    | none =>
      simp only [step]
      cases ho : (inst.machine.converge next).2 with
      | error s =>
        have hs := converge_not_failed inst.machine next ho
        have hnil : next ++ inst.machine.injected = [] := by
          rw [Machine.converge_snd] at ho
          split at ho
          · exact List.isEmpty_iff.1 ‹_›
          · cases ho
        refine ⟨[], .converge ?_ (by simp [upcoming, ho, isDone, dueAt, Except.toBool]) rfl ?_, rfl⟩
        · cases s <;> simp_all [failed]
        · simp [upcoming, hnil]
      | ok ds =>
        have hds : ds = next ++ inst.machine.injected := by
          rw [Machine.converge_snd] at ho
          split at ho
          · cases ho
          · exact (Except.ok.inj ho).symm
        exact ⟨[], .converge rfl (by simp [upcoming, ho, isDone, dueAt, Except.toBool]) rfl hds, rfl⟩
  · simp [isDone, dueAt] at h

end Task

end Superstep
