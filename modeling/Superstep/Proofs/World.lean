import Mathlib
import Superstep.Engine.Background
import Superstep.Proofs.Responses
import Superstep.Proofs.Runner

/-!
# An instance and the runs on it, in any interleaving

A `World` is one workflow instance together with every run started on it, in the order started,
whether it has ended or not; a run leaves the list only when its runner is dropped. Every handle
on the instance (clones of it, and any number of background handles) acts on this one world, one
step at a time: the instance's lock makes each entry point's check and change one step, and the
runs take their own steps (`Task.step`) in between.

`World.apply` is one such step (`Action`): a run is started, as by `run` and
`run_in_background` (`Background.start`); responses are given, as by a background handle
(`Background.respond`), which may start a run again; the executors' stores are reset; a run takes
a step; or a runner is dropped, which abandons its run unless it has ended. A step that fails
changes nothing. `Reachable` collects every world a fresh instance of a graph reaches, with the
events its runs produced on the way; a list of actions (`World.after`, `World.events`) reaches
one from another (`Reachable.after`).

What a start does is stated once, one shape of input at a time (`Instance.begin_of_message`,
`Instance.begin_of_responses` and the two refusals of the input's shape); what a start that
succeeds changes (`Instance.begin_eq_ok`) and which start is refused (in `Proofs.Admission`) are
read off these.
-/

namespace Superstep

/-- An instance and the runs started on it, in the order started. -/
structure World where
  inst : Instance
  runs : List Task

/-- One thing that happens to an instance. -/
inductive Action where
  /-- A run is started (`run`, `run_in_background`), on a clock that starts at `time`. -/
  | begin (req : RunRequest) (time : Nat)
  /-- Responses are given through a background handle; a restarted run's clock starts at
  `time`. -/
  | respond (responses : List (String × Message)) (time : Nat)
  /-- The executors' stores are cleared. -/
  | reset
  /-- The run at position `i` takes one step. -/
  | step (i : Nat)
  /-- The runner of the run at position `i` is dropped. -/
  | drop (i : Nat)

/-- Whether the start executor of a graph handles messages of a kind. -/
def Graph.startAccepts (g : Graph) (kind : String) : Bool :=
  match g.executor? g.start with
  | some e => e.caps.canHandle kind
  | none => false

namespace RunRequest

/-- The responses of a request count as none exactly when they are absent or empty. -/
theorem filter_eq_none_iff (req : RunRequest) :
    req.responses.filter (!·.isEmpty) = none ↔ ∀ rs ∈ req.responses, rs = [] := by
  cases h : req.responses <;> simp [Option.filter]

theorem filter_eq_some_iff (req : RunRequest) {rs : List (String × Message)} :
    req.responses.filter (!·.isEmpty) = some rs ↔ req.responses = some rs ∧ rs ≠ [] := by
  simp [Option.filter_eq_some_iff]

/-- The four shapes of input a start tells apart: a first message with responses, neither, a
first message alone, or responses alone. -/
theorem shape (req : RunRequest) :
    (∃ m rs, req.message = some m ∧ req.responses = some rs ∧ rs ≠ []) ∨
      (req.message = none ∧ ∀ rs ∈ req.responses, rs = []) ∨
      (∃ m, req.message = some m ∧ ∀ rs ∈ req.responses, rs = []) ∨
      ∃ rs, req.message = none ∧ req.responses = some rs ∧ rs ≠ [] := by
  cases hm : req.message with
  | none =>
    cases hf : req.responses.filter (!·.isEmpty) with
    | none => exact .inr (.inl ⟨rfl, (filter_eq_none_iff req).1 hf⟩)
    | some rs => exact .inr (.inr (.inr ⟨rs, rfl, (filter_eq_some_iff req).1 hf⟩))
  | some m =>
    cases hf : req.responses.filter (!·.isEmpty) with
    | none => exact .inr (.inr (.inl ⟨m, rfl, (filter_eq_none_iff req).1 hf⟩))
    | some rs => exact .inl ⟨m, rs, rfl, (filter_eq_some_iff req).1 hf⟩

end RunRequest

namespace Instance

variable {inst : Instance} {req : RunRequest} {m : Message} {rs : List (String × Message)}

/-! ## The checks of a start, one input shape at a time -/

theorem begin_of_conflicting (hm : req.message = some m) (hrs : req.responses = some rs)
    (hne : rs ≠ []) : inst.begin req = .error .conflictingInput := by
  have hf := (RunRequest.filter_eq_some_iff req).2 ⟨hrs, hne⟩
  simp [begin, hm, hf]

theorem begin_of_missing (hm : req.message = none) (hrs : ∀ rs ∈ req.responses, rs = []) :
    inst.begin req = .error .missingInput := by
  have hf := (RunRequest.filter_eq_none_iff req).2 hrs
  simp [begin, hm, hf]

/-- A first message: refused while a run is in flight, then refused unless the start executor
accepts its kind; otherwise the machine starts afresh, with no request pending and nothing
absorbed, and the message goes to the start executor. -/
theorem begin_of_message (hm : req.message = some m) (hrs : ∀ rs ∈ req.responses, rs = []) :
    inst.begin req =
      if inst.runState = .running then .error .concurrentRunRejected
      else if inst.graph.startAccepts m.kind then
        .ok ({ inst with machine := { state := .running } }, [.message inst.graph.start m])
      else .error (.workflow (.unsupportedMessage inst.graph.start m.kind)) := by
  have hf := (RunRequest.filter_eq_none_iff req).2 hrs
  by_cases hr : inst.machine.state = .running
  · simp [begin, hm, hf, Machine.ensureNotRunning, runState, hr, bind, Except.bind]
  · have hfresh : inst.machine.beginFresh = .ok { state := .running } := by
      simp [Machine.beginFresh, Machine.ensureNotRunning, hr, bind, Except.bind, pure,
        Except.pure]
    cases hx : inst.graph.executor? inst.graph.start with
    | none =>
      simp [begin, hm, hf, Machine.ensureNotRunning, runState, hr, Graph.startAccepts, hx, bind,
        Except.bind, throw, throwThe, MonadExceptOf.throw]
    | some e =>
      cases hc : e.caps.canHandle m.kind <;>
        simp [begin, hm, hf, Machine.ensureNotRunning, runState, hr, Graph.startAccepts, hx, hc,
          hfresh, bind, Except.bind, throw, throwThe, MonadExceptOf.throw, pure, Except.pure]

/-- Responses that are not empty start a run exactly as the machine resumes one. -/
theorem begin_of_responses (hm : req.message = none) (hrs : req.responses = some rs)
    (hne : rs ≠ []) :
    inst.begin req = (inst.machine.beginWithResponses rs).map fun r => ({ inst with machine := r.1 }, r.2) := by
  have hf := (RunRequest.filter_eq_some_iff req).2 ⟨hrs, hne⟩
  simp only [begin, hm, hf]
  cases inst.machine.beginWithResponses rs <;> simp [bind, Except.bind, pure, Except.pure, Except.map]

/-! ## What a start and a reset change -/

/-- A run starts only when none is in flight. It changes nothing of the instance but its machine,
which it leaves `RUNNING`: afresh, for a first message the start executor accepts, delivered to
it; or, for a valid batch of responses that is not empty, less the requests the batch answers,
starting from the batch's deliveries. -/
theorem begin_eq_ok {inst inst' : Instance} {req : RunRequest} {ds : List Delivery}
    (h : inst.begin req = .ok (inst', ds)) :
    inst.runState ≠ .running ∧ ∃ machine : Machine, inst' = { inst with machine } ∧
      ((∃ m, req.message = some m ∧ machine = { state := .running } ∧
          ds = [.message inst.graph.start m]) ∨
        ∃ rs, req.message = none ∧ req.responses = some rs ∧ rs ≠ [] ∧
          Machine.Valid inst.machine.pending rs ∧
          machine = { inst.machine with pending := (Machine.take inst.machine.pending rs).1,
                                        state := .running } ∧
          ds = (Machine.take inst.machine.pending rs).2) := by
  rcases req.shape with ⟨m, rs, hm, hrs, hne⟩ | ⟨hm, hrs⟩ | ⟨m, hm, hrs⟩ | ⟨rs, hm, hrs, hne⟩
  · simp [begin_of_conflicting hm hrs hne] at h
  · simp [begin_of_missing hm hrs] at h
  · rw [begin_of_message hm hrs] at h
    by_cases hr : inst.runState = .running
    · simp [hr] at h
    by_cases hc : inst.graph.startAccepts m.kind = true
    · simp only [hr, hc, ↓reduceIte, Except.ok.injEq, Prod.mk.injEq] at h
      obtain ⟨rfl, rfl⟩ := h
      exact ⟨hr, _, rfl, .inl ⟨m, hm, rfl, rfl⟩⟩
    · simp [hr, hc] at h
  · rw [begin_of_responses hm hrs hne] at h
    by_cases hr : inst.machine.state = .running
    · simp [Machine.beginWithResponses_of_running hr, Except.map] at h
    by_cases hv : Machine.Valid inst.machine.pending rs
    · simp only [Machine.beginWithResponses_of_valid hr hv, Except.map, Except.ok.injEq,
        Prod.mk.injEq] at h
      obtain ⟨rfl, rfl⟩ := h
      exact ⟨hr, _, rfl, .inr ⟨rs, hm, hrs, hne, hv, rfl, rfl⟩⟩
    · obtain ⟨e, he⟩ : ∃ e, Machine.Refused inst.machine.pending rs e := by
        simpa using mt Machine.valid_iff_not_refused.2 hv
      simp [(Machine.beginWithResponses_eq_error_iff hr).2 he, Except.map] at h

/-- The stores are cleared only when no run is in flight, and nothing else changes. -/
theorem reset_eq_ok {inst inst' : Instance} (h : inst.reset = .ok inst') :
    inst.runState ≠ .running ∧ ∃ stores, inst' = { inst with stores } := by
  unfold reset at h
  split at h
  · cases h
  · cases h
    exact ⟨‹_›, _, rfl⟩

end Instance

namespace World

/-! ## What an action does to requests and responses -/

/-- The responses waiting to be handed to a handler: those absorbed into the run in flight, and
those a run holds for its next superstep. -/
def waiting (w : World) : List Delivery :=
  (w.inst.machine.injected ++ w.runs.flatMap Task.upcoming).filter (·.isResponse)

/-- Whether an action taken in `w` ends the wait for the request with id `r`: responses that name
it are accepted, a run begins from a first message, or a run fails or its runner is dropped before
the run ended. -/
def Releases (w : World) (a : Action) (r : String) : Prop :=
  match a with
  | .begin req time => (∃ x, Background.start w.inst req time = .ok x) ∧
      (req.message.isSome ∨ r ∈ (req.responses.getD []).map Prod.fst)
  | .respond rs time => (∃ x, Background.respond w.inst {} rs time = .ok x) ∧ r ∈ rs.map Prod.fst
  | .reset => False
  | .step i => ∃ t, w.runs[i]? = some t ∧ t.isDone = false ∧ (Task.step w.inst t).2.1.failed
  | .drop i => ∃ t, w.runs[i]? = some t ∧ t.isDone = false

/-- The response deliveries an action creates: one for each response it accepts, in order. -/
def created (w : World) : Action → List Delivery
  | .begin req _ =>
    match req.message, w.inst.begin req with
    | none, .ok (_, ds) => ds
    | _, _ => []
  | .respond rs _ =>
    match w.inst.machine.respond rs with
    | .ok _ => (Machine.take w.inst.machine.pending rs).2
    | .error _ => []
  | _ => []

/-- The responses an action hands to their handlers: those of a superstep that starts. -/
def dispatched (w : World) : Action → List Delivery
  | .step i =>
    match w.runs[i]? with
    | some t => (t.dispatched w.inst).filter (·.isResponse)
    | none => []
  | _ => []

/-- The responses an action drops: all those waiting, when the run in flight fails or its runner
is dropped. -/
def lost (w : World) : Action → List Delivery
  | .step i =>
    match w.runs[i]? with
    | some t => if !t.isDone && (Task.step w.inst t).2.1.failed then w.waiting else []
    | none => []
  | .drop i =>
    match w.runs[i]? with
    | some t => if t.isDone then [] else w.waiting
    | none => []
  | _ => []

/-- The world once a run starts at `time` on the machine `machine`, with the deliveries `ds`. -/
def opened (w : World) (machine : Machine) (ds : List Delivery) (time : Nat) : World :=
  ⟨{ w.inst with machine, ids := w.inst.ids + 1 }, w.runs ++ [{ phase := .ready ds, clock := time }]⟩

@[simp] theorem opened_inst (w : World) (machine : Machine) (ds : List Delivery) (time : Nat) :
    (w.opened machine ds time).inst = { w.inst with machine, ids := w.inst.ids + 1 } := rfl

@[simp] theorem opened_runs (w : World) (machine : Machine) (ds : List Delivery) (time : Nat) :
    (w.opened machine ds time).runs = w.runs ++ [{ phase := .ready ds, clock := time }] := rfl

/-- The events a run on the instance starts with. -/
def opening (inst : Instance) : List Event :=
  [.started (Uuid.generated inst.ids) Timestamp.epoch, .status .running Timestamp.epoch]

end World

/-- What one action can do to a world, with the events it produces. -/
inductive Moves : World → Action → World → List Event → Prop
  /-- Nothing changes: an entry point refused the call, an empty batch of responses, a step of a
  run that is over, or an action on a run that does not exist. -/
  | stay (w : World) (a : Action) : (∀ r, ¬ w.Releases a r) → w.created a = [] →
      w.dispatched a = [] → w.lost a = [] → Moves w a w []
  /-- A run starts from a first message, with no run in flight, on a machine started afresh. -/
  | fresh (w : World) (req : RunRequest) (m : Message) (time : Nat) :
      w.inst.runState ≠ .running → req.message = some m →
      (∀ r, w.Releases (.begin req time) r) → w.created (.begin req time) = [] →
      Moves w (.begin req time)
        (w.opened { state := .running } [.message w.inst.graph.start m] time)
        (World.opening w.inst)
  /-- A run starts from a valid batch of responses that is not empty, by a run or a restart,
  with no run in flight: the requests answered leave the table, and the batch's deliveries are
  the new run's first. -/
  | resume (w : World) (a : Action) (rs : List (String × Message)) (time : Nat) :
      w.inst.runState ≠ .running → rs ≠ [] → Machine.Valid w.inst.machine.pending rs →
      (a = .respond rs time ∨ ∃ req, a = .begin req time) →
      (∀ r, w.Releases a r ↔ r ∈ rs.map Prod.fst) →
      w.created a = (Machine.take w.inst.machine.pending rs).2 →
      Moves w a
        (w.opened { w.inst.machine with pending := (Machine.take w.inst.machine.pending rs).1,
                                        state := .running }
          (Machine.take w.inst.machine.pending rs).2 time)
        (World.opening w.inst)
  /-- A valid batch of responses that is not empty joins the run in flight: the requests answered
  leave the table, and the batch's deliveries are absorbed. -/
  | absorb (w : World) (rs : List (String × Message)) (time : Nat) :
      w.inst.runState = .running → rs ≠ [] → Machine.Valid w.inst.machine.pending rs →
      (∀ r, w.Releases (.respond rs time) r ↔ r ∈ rs.map Prod.fst) →
      w.created (.respond rs time) = (Machine.take w.inst.machine.pending rs).2 →
      Moves w (.respond rs time)
        ⟨{ w.inst with machine := { w.inst.machine with
            pending := (Machine.take w.inst.machine.pending rs).1,
            injected := w.inst.machine.injected ++ (Machine.take w.inst.machine.pending rs).2 } },
          w.runs⟩ []
  /-- The stores are replaced while no run is in flight. -/
  | reset (w : World) (stores : List (String × List (String × Value))) :
      w.inst.runState ≠ .running → Moves w .reset ⟨{ w.inst with stores }, w.runs⟩ []
  /-- A run that has not ended takes a step. -/
  | step (w : World) (i : Nat) (t : Task) :
      w.runs[i]? = some t → t.isDone = false →
      Moves w (.step i) ⟨(Task.step w.inst t).1, w.runs.set i (Task.step w.inst t).2.1⟩
        ((Task.step w.inst t).2.2.map (·.event))
  /-- A runner is dropped. -/
  | drop (w : World) (i : Nat) (t : Task) :
      w.runs[i]? = some t → Moves w (.drop i) ⟨Task.drop w.inst t, w.runs.eraseIdx i⟩ []

namespace World

/-- The world after an action, and the events produced by it. -/
def apply (w : World) : Action → World × List Event
  | .begin req time =>
    match Background.start w.inst req time with
    | .ok (inst, h) => (⟨inst, w.runs ++ h.task.toList⟩, h.held.map (·.event))
    | .error _ => (w, [])
  | .respond responses time =>
    match Background.respond w.inst {} responses time with
    | .ok (inst, h) => (⟨inst, w.runs ++ h.task.toList⟩, h.held.map (·.event))
    | .error _ => (w, [])
  | .reset =>
    match w.inst.reset with
    | .ok inst => (⟨inst, w.runs⟩, [])
    | .error _ => (w, [])
  | .step i =>
    match w.runs[i]? with
    | some t =>
      let (inst, t, events) := Task.step w.inst t
      (⟨inst, w.runs.set i t⟩, events.map (·.event))
    | none => (w, [])
  | .drop i =>
    match w.runs[i]? with
    | some t => (⟨Task.drop w.inst t, w.runs.eraseIdx i⟩, [])
    | none => (w, [])

/-- A fresh instance of a graph, with no run. -/
def init (g : Graph) : World := ⟨Instance.new g, []⟩

/-- Starting a run, and what it releases and creates. -/
private theorem apply_begin_moves (w : World) (req : RunRequest) (time : Nat) :
    Moves w (.begin req time) (w.apply (.begin req time)).1 (w.apply (.begin req time)).2 := by
  cases hb : w.inst.begin req with
  | error e =>
    have hs : Background.start w.inst req time = .error e := by
      simp [Background.start, hb, bind, Except.bind]
    simp only [apply, hs]
    refine .stay w (.begin req time) (fun r hr => ?_) ?_ rfl rfl
    · obtain ⟨⟨x, hx⟩, -⟩ := hr
      rw [hs] at hx
      cases hx
    · cases hm : req.message <;> simp [created, hm, hb]
  | ok r =>
    obtain ⟨inst, ds⟩ := r
    obtain ⟨hidle, machine, rfl, hm⟩ := Instance.begin_eq_ok hb
    have hs : Background.start w.inst req time =
        .ok ((Task.start { w.inst with machine } ds time).1,
          { held := (Task.start { w.inst with machine } ds time).2.2,
            task := some (Task.start { w.inst with machine } ds time).2.1 }) := by
      simp [Background.start, hb, bind, Except.bind, pure, Except.pure]
    have hok : ∃ x, Background.start w.inst req time = .ok x := ⟨_, hs⟩
    simp only [apply, hs, Option.toList_some]
    rcases hm with ⟨m, hmsg, rfl, rfl⟩ | ⟨rs, hmsg, hrs, hne, hv, rfl, rfl⟩
    · exact .fresh w req m time hidle hmsg (fun r => ⟨hok, by simp [hmsg]⟩)
        (by simp [created, hmsg])
    · refine .resume w _ rs time hidle hne hv (.inr ⟨req, rfl⟩) (fun r => ?_) ?_
      · simp [Releases, hok, hmsg, hrs]
      · simp [created, hmsg, hb]

/-- Giving responses through a handle, and what it releases and creates. -/
private theorem apply_respond_moves (w : World) (rs : List (String × Message)) (time : Nat) :
    Moves w (.respond rs time) (w.apply (.respond rs time)).1
      (w.apply (.respond rs time)).2 := by
  by_cases hne : rs = []
  · subst hne
    simp only [apply, Background.respond, Machine.respond_nil, bind, Except.bind, pure,
      Except.pure, Option.toList_none, List.append_nil, List.map_nil]
    exact .stay w _ (fun r hrel => by simp [Releases] at hrel) (by simp [created, Machine.take])
      rfl rfl
  cases hr : w.inst.machine.respond rs with
  | error e =>
    have hs : Background.respond w.inst {} rs time = .error e := by
      simp [Background.respond, hr, bind, Except.bind]
    simp only [apply, hs]
    refine .stay w (.respond rs time) (fun r hrel => ?_) (by simp [created, hr]) rfl rfl
    obtain ⟨⟨x, hx⟩, -⟩ := hrel
    rw [hs] at hx
    cases hx
  | ok r =>
    obtain ⟨machine, o⟩ := r
    have hcreated : w.created (.respond rs time) = (Machine.take w.inst.machine.pending rs).2 := by
      simp [created, hr]
    have hok : ∃ x, Background.respond w.inst {} rs time = .ok x := by
      cases o <;> simp [Background.respond, hr, bind, Except.bind, pure, Except.pure]
    rcases Machine.respond_eq_ok hr with ⟨h, -⟩ | ⟨hv, hs, rfl, rfl⟩ | ⟨hv, hs, rfl, rfl⟩
    · exact absurd h hne
    · simp only [apply, Background.respond, hr, bind, Except.bind, pure, Except.pure,
        Option.toList_none, List.append_nil, List.map_nil]
      exact .absorb w rs time hs hne hv (fun r => by simp [Releases, hok]) hcreated
    · simp only [apply, Background.respond, hr, bind, Except.bind, pure, Except.pure,
        Option.toList_some, List.nil_append]
      exact .resume w _ rs time hs hne hv (.inl rfl) (fun r => by simp [Releases, hok])
        hcreated

/-- **Every action is one of the moves.** -/
theorem apply_moves (w : World) (a : Action) : Moves w a (w.apply a).1 (w.apply a).2 := by
  cases a with
  | begin req time => exact apply_begin_moves w req time
  | respond rs time => exact apply_respond_moves w rs time
  | reset =>
    cases hr : w.inst.reset with
    | error e =>
      simp only [apply, hr]
      exact .stay w .reset (fun _ h => h) rfl rfl rfl
    | ok inst =>
      obtain ⟨hidle, stores, rfl⟩ := Instance.reset_eq_ok hr
      simp only [apply, hr]
      exact .reset w stores hidle
  | step i =>
    cases ht : w.runs[i]? with
    | none =>
      simp only [apply, ht]
      refine .stay w (.step i) (fun r hr => ?_) rfl (by simp [dispatched, ht]) (by simp [lost, ht])
      obtain ⟨t, h, -⟩ := hr
      simp [ht] at h
    | some t =>
      simp only [apply, ht]
      cases hd : t.isDone with
      | false => exact .step w i t ht hd
      | true =>
        obtain ⟨hi, rfl⟩ := List.getElem?_eq_some_iff.1 ht
        rw [Task.step_of_isDone w.inst hd, List.set_getElem_self]
        refine .stay w (.step i) (fun r hr => ?_) rfl ?_ (by simp [lost, ht, hd])
        · obtain ⟨t', h, hd', -⟩ := hr
          simp [ht] at h
          simp_all
        · have : w.runs[i].dispatched w.inst = [] := by
            unfold Task.dispatched
            split <;> simp_all [Task.isDone, Task.dueAt]
          simp [dispatched, ht, this]
  | drop i =>
    cases ht : w.runs[i]? with
    | none =>
      simp only [apply, ht]
      refine .stay w (.drop i) (fun r hr => ?_) rfl rfl (by simp [lost, ht])
      obtain ⟨t, h, -⟩ := hr
      simp [ht] at h
    | some t =>
      simp only [apply, ht]
      exact .drop w i t ht

end World

/-- The worlds a fresh instance reaches, with the events produced on the way, in order. -/
inductive Reachable : World → List Event → Prop
  | init (g : Graph) : Reachable (World.init g) []
  | step {w : World} {log : List Event} (a : Action) :
      Reachable w log → Reachable (w.apply a).1 (log ++ (w.apply a).2)

/-! ## Histories -/

namespace World

/-- The actions of a sequence, each with the world it is taken in. -/
def history (w : World) : List Action → List (World × Action)
  | [] => []
  | a :: as => (w, a) :: (w.apply a).1.history as

/-- The world after a sequence of actions. -/
def after (w : World) : List Action → World
  | [] => w
  | a :: as => (w.apply a).1.after as

/-- What a sequence of actions produces, in order: `f v a` for each action `a`, taken in the
world `v`. -/
def collect {α : Type} (w : World) (as : List Action) (f : World → Action → List α) : List α :=
  (w.history as).flatMap fun x => f x.1 x.2

/-- The events a sequence of actions produces, in order. -/
def events (w : World) (as : List Action) : List Event := w.collect as fun v a => (v.apply a).2

@[simp] theorem collect_nil {α : Type} (w : World) (f : World → Action → List α) :
    w.collect [] f = [] := rfl

@[simp] theorem collect_cons {α : Type} (w : World) (a : Action) (as : List Action)
    (f : World → Action → List α) :
    w.collect (a :: as) f = f w a ++ (w.apply a).1.collect as f := rfl

@[simp] theorem events_nil (w : World) : w.events [] = [] := rfl

@[simp] theorem events_cons (w : World) (a : Action) (as : List Action) :
    w.events (a :: as) = (w.apply a).2 ++ (w.apply a).1.events as := rfl

end World

/-- A history of actions from a reachable world reaches the world after it, with its events. -/
theorem Reachable.after {w : World} {log : List Event} (h : Reachable w log) (as : List Action) :
    Reachable (w.after as) (log ++ w.events as) := by
  induction as generalizing w log with
  | nil => simpa [World.after] using h
  | cons a as ih =>
    have h' := ih (h.step a)
    rwa [List.append_assoc, ← World.events_cons] at h'

end Superstep
