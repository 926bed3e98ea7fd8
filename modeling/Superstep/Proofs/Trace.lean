import Mathlib
import Superstep.Proofs.Progress
import Superstep.Proofs.Handlers

/-!
# The events of a run

Every run reports its work in one shape. It starts and reports `RUNNING`. Each superstep `k`
is opened, shows one block for each of its deliveries in queue order (the invocation of the
delivery's target, the outputs and requests its handler made in the order made, the
completion), and is closed. The run then ends with its terminal status, `IDLE` or
`IDLE_WITH_PENDING_REQUESTS` by whether requests still wait, or with its failure and `FAILED`
(`runTrace`, `Ending`).

`Task.Traced` says where the events of a run in progress stand in that shape, and every step
keeps it (`Task.Traced.step`) whatever else happened to the instance between steps, so it holds
of runs in the background too. `Task.Settled` says that a run that is over left the machine in
its terminal state. The main statement, `execute_trace`, reads both off a whole synchronous
run: its events are exactly one such trace, with between one superstep and the graph's limit.

A handler may change its context in any way the handler monad allows; handlers written with
the context's operations only ever record requests of the executor they run for
(`Handler.Sourced`), and for those every `request_info` event of a block names the block's
executor.
-/

namespace Superstep

/-- The event that publishing an effect of executor `source` reports. -/
def Effect.event (source : String) : Effect → Event
  | .output v => .output source v
  | .request r => .requestInfo r.requestId r.source r.request r.responseKind

/-- What the events show of one handler invocation: the executor invoked and the effects its
handler published, in the order made. -/
structure Invoked where
  target : String
  effects : List Effect

namespace Invoked

/-- The block of events of an invocation in superstep `k`. -/
def events (k : Nat) (b : Invoked) : List Event :=
  .executorInvoked b.target k :: b.effects.map (Effect.event b.target) ++
    [.executorCompleted b.target k]

/-- `b` is what calling the handler of delivery `d` in superstep `k` of a run of `g` shows: the
delivery's target, and the effects its handler made from some state of the instance. -/
def Of (g : Graph) (k : Nat) (d : Delivery) (b : Invoked) : Prop :=
  b.target = d.target ∧ ∃ inst : Instance, inst.graph = g ∧ b.effects = (inst.dispatch k d).2.effects

end Invoked

/-- The events of superstep `k` with the invocations `bs`. -/
def superstepTrace (k : Nat) (bs : List Invoked) : List Event :=
  .superstepStarted k :: bs.flatMap (Invoked.events k) ++ [.superstepCompleted k]

/-- The events of consecutive supersteps, numbered from `k`. -/
def superstepsTrace : Nat → List (List Invoked) → List Event
  | _, [] => []
  | k, bs :: rest => superstepTrace k bs ++ superstepsTrace (k + 1) rest

/-- The supersteps from `k` on each handed out a list of deliveries that is not empty, and their
blocks show those deliveries in order. -/
def Shows (g : Graph) : Nat → List (List Delivery) → List (List Invoked) → Prop
  | _, [], [] => True
  | k, ds :: dss, bs :: sts => ds ≠ [] ∧ List.Forall₂ (Invoked.Of g k) ds bs ∧ Shows g (k + 1) dss sts
  | _, _, _ => False

/-- How a run ends. -/
inductive Ending where
  /-- Nothing was left to deliver; `waiting` when requests still wait for responses. -/
  | converged (waiting : Bool)
  /-- The run failed. -/
  | failed (details : Failure)

namespace Ending

/-- The terminal state of a run that ends so. -/
def state : Ending → RunState
  | .converged waiting => if waiting then .idleWithPendingRequests else .idle
  | .failed _ => .failed

/-- The last events of a run that ends so. -/
def events : Ending → List Event
  | .converged waiting => [.status (converged waiting).state Timestamp.epoch]
  | .failed details => [.failed details Timestamp.epoch, .status .failed Timestamp.epoch]

end Ending

/-- The events of the run with id `id` that has run the supersteps `sts` and not ended. -/
def runSoFar (id : Uuid) (sts : List (List Invoked)) : List Event :=
  .started id Timestamp.epoch :: .status .running Timestamp.epoch :: superstepsTrace 1 sts

/-- The whole trace of a run with id `id`, supersteps `sts` and ending `en`. -/
def runTrace (id : Uuid) (sts : List (List Invoked)) (en : Ending) : List Event :=
  runSoFar id sts ++ en.events

/-! ## Superstep traces -/

theorem Shows.length_eq {g : Graph} {k : Nat} {dss : List (List Delivery)} {sts : List (List Invoked)}
    (h : Shows g k dss sts) : dss.length = sts.length := by
  induction dss generalizing k sts with
  | nil => cases sts <;> simp_all [Shows]
  | cons ds dss ih =>
    cases sts with
    | nil => simp [Shows] at h
    | cons bs sts => simp [ih h.2.2]

/-- One more superstep, showing its deliveries. -/
theorem Shows.append {g : Graph} {k : Nat} {dss : List (List Delivery)} {sts : List (List Invoked)}
    (h : Shows g k dss sts) {ds : List Delivery} {bs : List Invoked} (hne : ds ≠ [])
    (hbs : List.Forall₂ (Invoked.Of g (k + dss.length)) ds bs) :
    Shows g k (dss ++ [ds]) (sts ++ [bs]) := by
  induction dss generalizing k sts with
  | nil =>
    cases sts with
    | nil => exact ⟨hne, by simpa using hbs, trivial⟩
    | cons => simp [Shows] at h
  | cons ds' dss ih =>
    cases sts with
    | nil => simp [Shows] at h
    | cons bs' sts =>
      obtain ⟨hne', hbs', hrest⟩ := h
      exact ⟨hne', hbs', ih hrest (by simpa [Nat.add_assoc, Nat.add_comm 1] using hbs)⟩

theorem superstepsTrace_append (k : Nat) (sts : List (List Invoked)) (bs : List Invoked) :
    superstepsTrace k (sts ++ [bs]) = superstepsTrace k sts ++ superstepTrace (k + sts.length) bs := by
  induction sts generalizing k with
  | nil => simp [superstepsTrace]
  | cons bs' sts ih => simp [superstepsTrace, ih, Nat.add_assoc, Nat.add_comm 1]

/-- In a graph whose executors record requests only for themselves, every request a block
shows names the block's executor. -/
theorem Invoked.Of.sourced {g : Graph} {k : Nat} {d : Delivery} {b : Invoked} (h : b.Of g k d)
    (hg : g.Sourced) : ∀ q ∈ Effect.requests b.effects, q.source = b.target := by
  obtain ⟨htarget, inst, rfl, heff⟩ := h
  intro q hq
  rw [heff] at hq
  rw [htarget]
  exact inst.dispatch_sourced hg k d q hq

theorem Shows.sourced {g : Graph} {k : Nat} {dss : List (List Delivery)} {sts : List (List Invoked)}
    (h : Shows g k dss sts) (hg : g.Sourced) :
    ∀ bs ∈ sts, ∀ b ∈ bs, ∀ q ∈ Effect.requests b.effects, q.source = b.target := by
  induction dss generalizing k sts with
  | nil => cases sts <;> simp_all [Shows]
  | cons ds dss ih =>
    cases sts with
    | nil => simp [Shows] at h
    | cons bs sts =>
      obtain ⟨-, hbs, hrest⟩ := h
      intro bs' hbs' b hb
      rcases List.mem_cons.1 hbs' with rfl | hbs'
      · clear hbs' hrest ih
        induction hbs with
        | nil => simp at hb
        | cons hab _ ih' =>
          rcases List.mem_cons.1 hb with rfl | hb
          · exact hab.sourced hg
          · exact ih' hb
      · exact ih hrest bs' hbs' b hb

/-- Whether an event belongs inside a superstep: every event but a start, a status or a
failure. -/
def Event.inSuperstep : Event → Bool
  | .superstepStarted _ | .executorInvoked .. | .executorCompleted .. | .superstepCompleted _
  | .output .. | .requestInfo .. => true
  | _ => false

theorem Event.asStatus?_of_inSuperstep {e : Event} (h : e.inSuperstep = true) : e.asStatus? = none := by
  cases e <;> simp_all [inSuperstep, asStatus?]

theorem Event.typeName_of_inSuperstep {e : Event} (h : e.inSuperstep = true) :
    e.typeName ≠ "started" := by
  cases e <;> simp_all [inSuperstep, typeName]

theorem Invoked.inSuperstep {k : Nat} {b : Invoked} : ∀ e ∈ b.events k, e.inSuperstep = true := by
  intro e he
  simp only [Invoked.events, List.cons_append, List.mem_cons, List.mem_append, List.mem_map,
    List.not_mem_nil, or_false] at he
  rcases he with rfl | ⟨x, -, rfl⟩ | rfl
  · rfl
  · cases x <;> rfl
  · rfl

/-- The supersteps of a trace hold only superstep events. -/
theorem superstepsTrace_inSuperstep (k : Nat) (sts : List (List Invoked)) :
    ∀ e ∈ superstepsTrace k sts, e.inSuperstep = true := by
  induction sts generalizing k with
  | nil => simp [superstepsTrace]
  | cons bs sts ih =>
    intro e he
    rw [superstepsTrace, List.mem_append] at he
    rcases he with he | he
    · rw [superstepTrace, List.cons_append, List.mem_cons, List.mem_append, List.mem_flatMap,
        List.mem_singleton] at he
      rcases he with rfl | ⟨b, -, hb⟩ | rfl
      · rfl
      · exact Invoked.inSuperstep e hb
      · rfl
    · exact ih (k + 1) e he

/-- A run that has not ended has reported one status, `RUNNING`. -/
theorem runSoFar_statuses (id : Uuid) (sts : List (List Invoked)) :
    (runSoFar id sts).filterMap Event.asStatus? = [.running] := by
  have hmid : (superstepsTrace 1 sts).filterMap Event.asStatus? = [] :=
    List.filterMap_eq_nil_iff.2 fun e he => Event.asStatus?_of_inSuperstep
      (superstepsTrace_inSuperstep 1 sts e he)
  rw [runSoFar,
    List.filterMap_cons_none (show Event.asStatus? (.started id Timestamp.epoch) = none from rfl),
    List.filterMap_cons_some
      (show Event.asStatus? (.status .running Timestamp.epoch) = some .running from rfl), hmid]

/-- A trace reports two statuses: `RUNNING`, then the terminal one. -/
theorem runTrace_statuses (id : Uuid) (sts : List (List Invoked)) (en : Ending) :
    (runTrace id sts en).filterMap Event.asStatus? = [.running, en.state] := by
  rw [runTrace, List.filterMap_append, runSoFar_statuses]
  cases en <;> rfl

/-- A trace reports one start. -/
theorem runTrace_started (id : Uuid) (sts : List (List Invoked)) (en : Ending) :
    ((runTrace id sts en).map Event.typeName).count "started" = 1 := by
  have hmid : ((superstepsTrace 1 sts).map Event.typeName).count "started" = 0 := by
    refine List.count_eq_zero.2 fun hmem => ?_
    obtain ⟨e, he, heq⟩ := List.mem_map.1 hmem
    exact Event.typeName_of_inSuperstep (superstepsTrace_inSuperstep 1 sts e he) heq
  cases en <;> simp [runTrace, runSoFar, Ending.events, Event.typeName, List.count_append, hmid]

/-- A trace ends with the terminal status. -/
theorem runTrace_getLast? (id : Uuid) (sts : List (List Invoked)) (en : Ending) :
    (runTrace id sts en).getLast? = some (.status en.state Timestamp.epoch) := by
  cases en <;> simp [runTrace, Ending.events, Ending.state, List.getLast?_append]

namespace Instance

theorem publish_snd (inst : Instance) (source : String) (effects : List Effect) :
    (publish source inst effects).2 = effects.map (Effect.event source) := by
  induction effects generalizing inst with
  | nil => rfl
  | cons e rest ih => cases e <;> simp [publish, Effect.event, ih]

/-- Delivering one delivery adds the block of its invocation. -/
theorem deliver_events (n : Nat) (s : Step) (d : Delivery) :
    (deliver n s d).events.map (·.event) =
      s.events.map (·.event) ++ Invoked.events n ⟨d.target, (s.inst.dispatch n d).2.effects⟩ := by
  simp [deliver, publish_snd, Invoked.events, Function.comp_def]

/-- The handlers of a list of deliveries add one block for each, in order. -/
theorem foldl_deliver_events (n : Nat) (ds : List Delivery) (s : Step) :
    ∃ bs, List.Forall₂ (Invoked.Of s.inst.graph n) ds bs ∧
      (ds.foldl (deliver n) s).events.map (·.event) =
        s.events.map (·.event) ++ bs.flatMap (Invoked.events n) := by
  induction ds generalizing s with
  | nil => exact ⟨[], .nil, by simp⟩
  | cons d ds ih =>
    obtain ⟨bs, hbs, he⟩ := ih (deliver n s d)
    refine ⟨⟨d.target, (s.inst.dispatch n d).2.effects⟩ :: bs, .cons ⟨rfl, s.inst, rfl, rfl⟩ ?_, ?_⟩
    · simpa using hbs
    · rw [List.foldl_cons, he, deliver_events]
      simp

/-- **A superstep's events**: opened, one block for each delivery in order, closed. -/
theorem superstep_events (inst : Instance) (n start : Nat) (ds : List Delivery) :
    ∃ bs, List.Forall₂ (Invoked.Of inst.graph n) ds bs ∧
      (inst.superstep n start ds).events.map (·.event) = superstepTrace n bs := by
  obtain ⟨bs, hbs, he⟩ :=
    foldl_deliver_events n ds ⟨inst, [⟨start, .superstepStarted n⟩], start, [], none⟩
  exact ⟨bs, hbs, by simp [superstep, he, superstepTrace]⟩

end Instance

/-! ## Where a run's events stand -/

/-- The events `events` of the run with id `id` of graph `g` from the deliveries `initial`, read
against where the run `t` stands: the supersteps begun so far (within the graph's limit), each
showing its deliveries, the first of them `initial`; between supersteps, the deliveries of the
next one, never none; once the run is over, the ending that matches its terminal state. -/
def Task.Traced (g : Graph) (initial : List Delivery) (id : Uuid) (t : Task) (events : List Event) :
    Prop :=
  ∃ dss sts, Shows g 1 dss sts ∧ dss.length = t.supersteps ∧ t.supersteps ≤ g.maxSupersteps ∧
    match t.phase with
    | .ready next => next ≠ [] ∧ (dss ++ [next]).head? = some initial ∧ events = runSoFar id sts
    | .closing .. => dss.head? = some initial ∧ events = runSoFar id sts
    | .done state => dss.head? = some initial ∧
        ∃ en : Ending, en.state = state ∧ events = runTrace id sts en

/-- A run that is over left the machine in its terminal state; one that converged chose that
state by whether requests still wait. -/
def Task.Settled (inst : Instance) (t : Task) : Prop :=
  ∀ s, t.phase = .done s → inst.runState = s ∧
    (s = .failed ∨ s = if inst.pending.isEmpty then .idle else .idleWithPendingRequests)

namespace Task

variable {g : Graph} {initial : List Delivery} {id : Uuid}

/-- A run that has just started: no superstep yet, its first deliveries next. -/
theorem traced_start (inst : Instance) (hinit : initial ≠ []) (time : Nat) :
    (Task.start inst initial time).2.1.Traced inst.graph initial (Uuid.generated inst.ids)
      ((Task.start inst initial time).2.2.map (·.event)) :=
  ⟨[], [], trivial, rfl, Nat.zero_le _, hinit, rfl, rfl⟩

/-- **One step keeps the trace in shape**, from whatever instance of the graph the step is taken:
it adds a superstep's events, the run's ending, or nothing. -/
theorem Stepped.traced {inst inst' : Instance} {t t' : Task} {es : List Stamped}
    (e : Stepped inst t inst' t' es) {events : List Event} (h : t.Traced g initial id events)
    (hg : inst.graph = g) (hmax : 0 < g.maxSupersteps) :
    t'.Traced g initial id (events ++ es.map (·.event)) := by
  subst hg
  obtain ⟨dss, sts, hshows, hlen, hle, hphase⟩ := h
  have hlen' := hshows.length_eq
  cases e with
  | ended s hs => simpa using ⟨dss, sts, hshows, hlen, hle, hs ▸ hphase⟩
  | limit next hp hl =>
    rw [hp] at hphase
    obtain ⟨-, hhead, rfl⟩ := hphase
    have hne : dss ≠ [] := by
      intro hnil
      simp [hnil] at hlen
      omega
    refine ⟨dss, sts, hshows, hlen, hle, ?_, ⟨.failed ⟨.maxSuperstepsExceeded,
      "Workflow did not converge within " ++ toString inst.graph.maxSupersteps ++ " supersteps", none⟩,
      rfl, ?_⟩⟩
    · rwa [List.head?_append_of_ne_nil _ hne] at hhead
    · simp [runTrace, Ending.events, Instance.failRun]
  | superstep next hp hl =>
    rw [hp] at hphase
    obtain ⟨hnext, hhead, rfl⟩ := hphase
    obtain ⟨bs, hbs, he⟩ := inst.superstep_events (t.supersteps + 1) t.clock next
    refine ⟨dss ++ [next], sts ++ [bs], hshows.append hnext ?_, by simp [hlen], by simpa using hl, ?_, ?_⟩
    · simpa [hlen, Nat.add_comm] using hbs
    · simpa [List.head?_append] using hhead
    · simp [runSoFar, he, superstepsTrace_append, ← hlen', hlen, Nat.add_comm]
  | failure next details endsAt hp =>
    rw [hp] at hphase
    obtain ⟨hhead, rfl⟩ := hphase
    exact ⟨dss, sts, hshows, hlen, hle, hhead, .failed details, rfl,
      by simp [runTrace, Ending.events, Instance.failRun]⟩
  | converge next endsAt s hp hs =>
    rw [hp] at hphase
    obtain ⟨hhead, rfl⟩ := hphase
    have hen : Ending.state (.converged !inst.machine.pending.isEmpty) = s := by
      rw [Machine.converge_snd] at hs
      split at hs
      · cases hs
        cases inst.machine.pending.isEmpty <;> rfl
      · cases hs
    exact ⟨dss, sts, hshows, hlen, hle, hhead, _, hen, by simp [runTrace, Ending.events, hen]⟩
  | next next endsAt ds hp hds =>
    rw [hp] at hphase
    obtain ⟨hhead, rfl⟩ := hphase
    have hne : ds ≠ [] := by
      rw [Machine.converge_snd] at hds
      split at hds
      · cases hds
      · cases hds
        exact fun h0 => ‹¬(next ++ inst.machine.injected).isEmpty = true› (List.isEmpty_iff.2 h0)
    refine ⟨dss, sts, hshows, hlen, hle, hne, ?_, by simp⟩
    have : dss ≠ [] := fun hnil => by simp [hnil] at hhead
    rw [List.head?_append_of_ne_nil _ this]
    exact hhead

theorem Traced.step {t : Task} {events : List Event} (h : t.Traced g initial id events)
    (inst : Instance) (hg : inst.graph = g) (hmax : 0 < g.maxSupersteps) :
    (Task.step inst t).2.1.Traced g initial id (events ++ (Task.step inst t).2.2.map (·.event)) :=
  (stepped inst t).traced h hg hmax

/-- Every run of steps keeps the trace in shape. -/
theorem Traced.finish {t : Task} {events : List Event} (h : t.Traced g initial id events)
    (inst : Instance) (hg : inst.graph = g) (hmax : 0 < g.maxSupersteps) (n : Nat) :
    (Task.finish inst t n).2.1.Traced g initial id
      (events ++ (Task.finish inst t n).2.2.map (·.event)) := by
  induction n generalizing inst t events with
  | zero => simpa [Task.finish] using h
  | succ n ih =>
    cases hd : t.isDone with
    | true => simpa [finish_of_isDone inst hd] using h
    | false =>
      rw [finish_succ_of_not_done inst hd]
      simpa using ih (h.step inst hg hmax) _ (by rw [step_graph, hg])

theorem Traced.supersteps_le {t : Task} {events : List Event} (h : t.Traced g initial id events) :
    t.supersteps ≤ g.maxSupersteps := by
  obtain ⟨_, _, _, _, hle, _⟩ := h
  exact hle

/-- A step that ends a run leaves the machine in the run's terminal state. -/
theorem Stepped.settled {inst inst' : Instance} {t t' : Task} {es : List Stamped}
    (e : Stepped inst t inst' t' es) (h : Settled inst t) : Settled inst' t' := by
  cases e with
  | ended s hs => exact h
  | limit next hp hl =>
    intro s hs
    cases hs
    exact ⟨rfl, .inl rfl⟩
  | superstep next hp hl => intro s hs; cases hs
  | failure next details endsAt hp =>
    intro s hs
    cases hs
    exact ⟨rfl, .inl rfl⟩
  | converge next endsAt s hp hs =>
    intro s' hs'
    cases hs'
    rw [Machine.converge_snd] at hs
    split at hs
    · cases hs
      refine ⟨?_, .inr (by simp [Instance.pending])⟩
      simp [Instance.runState, Machine.converge_fst, *]
    · cases hs
  | next next endsAt ds hp hds => intro s hs; cases hs

theorem Settled.step {inst : Instance} {t : Task} (h : Settled inst t) :
    Settled (Task.step inst t).1 (Task.step inst t).2.1 :=
  (stepped inst t).settled h

theorem Settled.finish {inst : Instance} {t : Task} (h : Settled inst t) (n : Nat) :
    Settled (Task.finish inst t n).1 (Task.finish inst t n).2.1 := by
  induction n generalizing inst t with
  | zero => exact h
  | succ n ih =>
    cases hd : t.isDone with
    | true => simpa [finish_of_isDone inst hd] using h
    | false =>
      rw [finish_succ_of_not_done inst hd]
      exact ih h.step

/-- A run that has not ended has nothing to settle. -/
theorem settled_of_not_done {inst : Instance} {t : Task} (h : t.isDone = false) : Settled inst t := by
  intro s hs
  simp [isDone, dueAt, hs] at h

end Task

/-! ## A whole run -/

/-- What a synchronous run of graph `g` from the deliveries `initial`, with run id `id`, reports
in its result `r`, with the instance `inst'` it leaves. -/
structure RunReport (g : Graph) (initial : List Delivery) (id : Uuid) (inst' : Instance)
    (r : RunResult) : Prop where
  /-- The events are one whole trace. It has between one superstep and the graph's limit, each
  showing its deliveries, the first of them `initial`. Every request a block reports names the
  block's executor. A run that converged ends `IDLE_WITH_PENDING_REQUESTS` exactly when requests
  are left, and the state returned is the run's terminal state. -/
  trace : ∃ (dss : List (List Delivery)) (sts : List (List Invoked)) (en : Ending),
    r.events = runTrace id sts en ∧ Shows g 1 dss sts ∧ dss.head? = some initial ∧
    1 ≤ sts.length ∧ sts.length ≤ g.maxSupersteps ∧
    (∀ bs ∈ sts, ∀ b ∈ bs, ∀ q ∈ Effect.requests b.effects, q.source = b.target) ∧
    (∀ waiting, en = .converged waiting → (waiting = true ↔ inst'.pending ≠ [])) ∧
    r.finalState = en.state
  /-- The instance is left in the terminal state. -/
  settled : inst'.runState = r.finalState
  /-- One start. -/
  startedOnce : (r.events.map Event.typeName).count "started" = 1
  /-- Two statuses: `RUNNING`, then the terminal one. -/
  statuses : r.events.filterMap Event.asStatus? = [.running, r.finalState]
  /-- The last event is the terminal status. -/
  last : r.events.getLast? = some (.status r.finalState Timestamp.epoch)

/-- A converged run waits for responses exactly when requests are left. -/
private theorem waiting_iff_pending {inst : Instance} {waiting : Bool}
    (h : (Ending.converged waiting).state = .failed ∨ (Ending.converged waiting).state =
      if inst.pending.isEmpty then .idle else .idleWithPendingRequests) :
    waiting = true ↔ inst.pending ≠ [] := by
  cases waiting <;> cases hp : inst.pending <;> simp_all [Ending.state]

/-- **The events of a run.** For every graph (with a superstep limit of at least one, as every
built graph has), every non-empty list of first deliveries and every behaviour of the handlers,
a synchronous run reports one whole trace: `Started`, `Status(RUNNING)`, between one and the
limit of supersteps, each with one block per delivery in queue order, and the ending;
exactly one start and two statuses, the terminal status last, and the instance is left in the
state the run returns. -/
theorem execute_trace (inst : Instance) (initial : List Delivery)
    (hmax : 0 < inst.graph.maxSupersteps) (hinit : initial ≠ []) (hsrc : inst.graph.Sourced) :
    RunReport inst.graph initial (Uuid.generated inst.ids) (inst.execute initial).1
      (inst.execute initial).2 := by
  have htr := Task.traced_start inst hinit 0
  generalize hs : Task.start inst initial 0 = s at htr
  have hg : s.1.graph = inst.graph := by rw [← hs]; rfl
  have hfin := htr.finish s.1 hg hmax (Task.budget s.1)
  have hdone : (Task.finish s.1 s.2.1 (Task.budget s.1)).2.1.isDone = true :=
    Task.finish_budget_isDone s.1 (by rw [hg]; exact htr.supersteps_le)
  have hset : Task.Settled (Task.finish s.1 s.2.1 (Task.budget s.1)).1
      (Task.finish s.1 s.2.1 (Task.budget s.1)).2.1 := (Task.settled_of_not_done (by rw [← hs]; rfl)).finish _
  generalize hf : Task.finish s.1 s.2.1 (Task.budget s.1) = f at hfin hdone hset
  have hexec : inst.execute initial =
      (f.1, ⟨(s.2.2 ++ f.2.2).map (·.event), f.2.1.finalState f.1⟩) := by
    rw [← hf, ← hs]
    rfl
  rw [hexec]
  obtain ⟨dss, sts, hshows, hlen, hle, hphase⟩ := hfin
  rcases hp : f.2.1.phase with next | ⟨next, failure, endsAt⟩ | st
  · simp [Task.isDone, Task.dueAt, hp] at hdone
  · simp [Task.isDone, Task.dueAt, hp] at hdone
  rw [hp] at hphase
  obtain ⟨hhead, en, hen, hevents⟩ := hphase
  rw [List.map_append]
  have hfinal : f.2.1.finalState f.1 = st := by simp [Task.finalState, hp]
  obtain ⟨hstate, hrule⟩ := hset st hp
  have hlen' := hshows.length_eq
  have hne : dss ≠ [] := fun hnil => by simp [hnil] at hhead
  refine ⟨⟨dss, sts, en, hevents, hshows, hhead, ?_, ?_, hshows.sourced hsrc, ?_, ?_⟩, ?_, ?_, ?_, ?_⟩
  · rw [← hlen']
    exact List.length_pos_iff.2 hne
  · rw [← hlen', hlen]
    exact hle
  · rintro waiting rfl
    exact waiting_iff_pending (hen ▸ hrule)
  · rw [hfinal, hen]
  · rw [hstate, hfinal]
  · rw [hevents]
    exact runTrace_started _ _ _
  · rw [hevents, runTrace_statuses, hfinal, hen]
  · rw [hevents, runTrace_getLast?, hfinal, hen]

/-- A run of the approval gate from one text message reports one whole trace. -/
theorem approval_gate_run_reported :
    0 < (Instance.new Nodes.approvalGate).graph.maxSupersteps ∧
      [Delivery.message "gate" (Nodes.text "ok?")] ≠ [] ∧
      (Instance.new Nodes.approvalGate).graph.Sourced ∧
      RunReport Nodes.approvalGate [Delivery.message "gate" (Nodes.text "ok?")]
        (Uuid.generated 0)
        ((Instance.new Nodes.approvalGate).execute [Delivery.message "gate" (Nodes.text "ok?")]).1
        ((Instance.new Nodes.approvalGate).execute [Delivery.message "gate" (Nodes.text "ok?")]).2 := by
  have hsrc : (Instance.new Nodes.approvalGate).graph.Sourced := by
    intro e he
    simp only [Instance.new, Nodes.approvalGate, List.mem_singleton] at he
    exact he ▸ Nodes.approver_sourced _ _ _
  exact ⟨by decide, by simp, hsrc, execute_trace _ _ (by decide) (by simp) hsrc⟩

end Superstep
