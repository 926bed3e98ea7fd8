import Mathlib
import Superstep.Proofs.Trace
import Superstep.Proofs.Stores

/-!
# What a superstep hands on

A superstep calls the handler of each of its deliveries in queue order (`Step.invocations`
lists the calls with what each handler left). Whatever the handlers do, every call is made, and
the superstep's events show one block for each, with the outputs and requests the handler made
before it returned or stopped. A call whose handler succeeded hands on its sends, each routed
along the sender's edges (`Instance.Invocation.routed`); a call whose handler failed hands on nothing,
and the first such call in queue order is the failure of the superstep (`Instance.Invocation.failure?`).

When the superstep ends, a failure ends the run: `Failed` with that call's error, then
`Status(FAILED)`, the machine `FAILED` with nothing pending or absorbed, the stores as they are.
Otherwise the next superstep gets the deliveries handed on followed by the responses absorbed
meanwhile, and the run converges when there are none. Absorbed responses are, in every world an
instance reaches, exactly those given while the run was in flight since its last superstep ended
or since it began (`World.absorbedSince`). A built graph routes a message to the distinct edge
targets of its sender, in the order of their first edge, that accept its kind.

The main statements are `superstep_schedule` and `failing_superstep_isolated`.
-/

namespace Superstep

namespace Instance.Invocation

/-- What a call hands to the next superstep: the sends of a handler that succeeded, in the order
sent, each to every receiver `Graph.route` finds; nothing from a handler that failed. -/
def routed (g : Graph) (target : String) (inv : Invocation) : List Delivery :=
  match inv.result with
  | .ok () => routeAll g target inv.outbox
  | .error _ => []

/-- The failure a call reports: its handler's error, against the executor it was made for. -/
def failure? (target : String) (inv : Invocation) : Option Failure :=
  match inv.result with
  | .ok () => none
  | .error e => some ⟨.executorFailure, e.message, some target⟩

theorem failure?_eq_none_iff {target : String} {inv : Invocation} :
    inv.failure? target = none ↔ inv.result = .ok () := by
  unfold failure?
  split <;> simp_all

theorem failure?_eq_some_iff {target : String} {inv : Invocation} {f : Failure} :
    inv.failure? target = some f ↔
      ∃ e, inv.result = .error e ∧ f = ⟨.executorFailure, e.message, some target⟩ := by
  unfold failure?
  split <;> simp_all [eq_comm]

/-- The first call whose handler failed, in queue order, is the failure the calls report. -/
theorem first_failure {calls : List (Delivery × Invocation)}
    (h : ∃ p ∈ calls, ∃ e, p.2.result = .error e) :
    ∃ (pre post : List (Delivery × Invocation)) (d : Delivery) (inv : Invocation)
      (e : ExecutorError),
      calls = pre ++ (d, inv) :: post ∧ (∀ q ∈ pre, q.2.result = .ok ()) ∧ inv.result = .error e ∧
      calls.findSome? (fun p => p.2.failure? p.1.target) =
        some ⟨.executorFailure, e.message, some d.target⟩ := by
  obtain ⟨f, hf⟩ : ∃ f, calls.findSome? (fun p => p.2.failure? p.1.target) = some f := by
    obtain ⟨p, hp, e, he⟩ := h
    refine Option.ne_none_iff_exists'.1 fun hnone => ?_
    have := List.findSome?_eq_none_iff.1 hnone p hp
    rw [failure?_eq_none_iff, he] at this
    cases this
  obtain ⟨pre, ⟨d, inv⟩, post, hsplit, hinv, hpre⟩ := List.findSome?_eq_some_iff.1 hf
  obtain ⟨e, he, rfl⟩ := failure?_eq_some_iff.1 hinv
  exact ⟨pre, post, d, inv, e, hsplit, fun q hq => failure?_eq_none_iff.1 (hpre q hq), he, hf⟩

end Instance.Invocation

namespace Instance

/-- The calls that deliveries make in superstep `n`, from the superstep state `s`: each delivery in
queue order, with what its handler left. -/
def Step.invocations (n : Nat) : Step → List Delivery → List (Delivery × Invocation)
  | _, [] => []
  | s, d :: ds => (d, (s.inst.dispatch n d).2) :: invocations n (deliver n s d) ds

variable (n : Nat)

theorem map_fst_invocations (s : Step) (ds : List Delivery) :
    (Step.invocations n s ds).map Prod.fst = ds := by
  induction ds generalizing s with
  | nil => rfl
  | cons d ds ih => simp [Step.invocations, ih]

theorem deliver_next (s : Step) (d : Delivery) :
    (deliver n s d).next = s.next ++ (s.inst.dispatch n d).2.routed s.inst.graph d.target := by
  simp only [deliver, Invocation.routed]
  cases (s.inst.dispatch n d).2.result <;> simp [publish_fst]

theorem deliver_failure (s : Step) (d : Delivery) :
    (deliver n s d).failure = s.failure.or ((s.inst.dispatch n d).2.failure? d.target) := by
  simp only [deliver, Invocation.failure?]
  cases (s.inst.dispatch n d).2.result <;> cases s.failure <;> rfl

/-- The next superstep's deliveries are those the calls hand on, in queue order. -/
theorem foldl_deliver_next (ds : List Delivery) (s : Step) :
    (ds.foldl (deliver n) s).next =
      s.next ++ (Step.invocations n s ds).flatMap fun p => p.2.routed s.inst.graph p.1.target := by
  induction ds generalizing s with
  | nil => simp [Step.invocations]
  | cons d ds ih =>
    rw [List.foldl_cons, ih, deliver_next, deliver_graph]
    simp [Step.invocations]

/-- The failure of a superstep is the first call's failure in queue order. -/
theorem foldl_deliver_failure (ds : List Delivery) (s : Step) :
    (ds.foldl (deliver n) s).failure =
      s.failure.or ((Step.invocations n s ds).findSome? fun p => p.2.failure? p.1.target) := by
  induction ds generalizing s with
  | nil => simp [Step.invocations]
  | cons d ds ih =>
    rw [List.foldl_cons, ih, deliver_failure, Option.or_assoc]
    congr 1
    simp only [Step.invocations, List.findSome?_cons]
    split <;> simp_all

/-- The events of the calls: one block each, in queue order. -/
theorem foldl_deliver_blocks (ds : List Delivery) (s : Step) :
    (ds.foldl (deliver n) s).events.map (·.event) = s.events.map (·.event) ++
      (Step.invocations n s ds).flatMap fun p => Invoked.events n ⟨p.1.target, p.2.effects⟩ := by
  induction ds generalizing s with
  | nil => simp [Step.invocations]
  | cons d ds ih =>
    rw [List.foldl_cons, ih, deliver_events]
    simp [Step.invocations]

end Instance

namespace Task

variable {inst : Instance} {t : Task}

/-- The calls of the superstep the next step of a run starts. -/
def invocations (inst : Instance) (t : Task) (ds : List Delivery) :
    List (Delivery × Instance.Invocation) :=
  Instance.Step.invocations (t.supersteps + 1)
    ⟨inst, [⟨t.clock, .superstepStarted (t.supersteps + 1)⟩], t.clock, [], none⟩ ds

/-- A run between supersteps, below the limit, runs the next one: it reports the superstep's
blocks, and waits for its end with what the calls handed on and their first failure. -/
theorem step_of_ready {ds : List Delivery} (hp : t.phase = .ready ds)
    (hl : t.supersteps < inst.graph.maxSupersteps) :
    (step inst t).2.2.map (·.event) = superstepTrace (t.supersteps + 1)
        ((t.invocations inst ds).map fun p => ⟨p.1.target, p.2.effects⟩) ∧
    ∃ endsAt, (step inst t).2.1 =
      { t with
        supersteps := t.supersteps + 1
        phase := .closing ((t.invocations inst ds).flatMap fun p => p.2.routed inst.graph p.1.target)
          ((t.invocations inst ds).findSome? fun p => p.2.failure? p.1.target) endsAt } := by
  have hstep : step inst t = ((inst.superstep (t.supersteps + 1) t.clock ds).inst,
      { t with
        supersteps := t.supersteps + 1
        phase := .closing (inst.superstep (t.supersteps + 1) t.clock ds).next
          (inst.superstep (t.supersteps + 1) t.clock ds).failure
          (inst.superstep (t.supersteps + 1) t.clock ds).clock },
      (inst.superstep (t.supersteps + 1) t.clock ds).events) := by
    unfold step
    rw [hp]
    simp [Nat.not_le.2 hl]
  rw [hstep]
  refine ⟨?_, (inst.superstep (t.supersteps + 1) t.clock ds).clock, ?_⟩
  · simp [Instance.superstep, Instance.foldl_deliver_blocks, superstepTrace, invocations,
      List.flatMap_map]
  · simp [Instance.superstep, Instance.foldl_deliver_next, Instance.foldl_deliver_failure,
      invocations]

/-- The end of a superstep that failed fails the run, from whatever instance it is taken. -/
theorem step_of_failed {next : List Delivery} {details : Failure} {endsAt : Nat}
    (hp : t.phase = .closing next (some details) endsAt) :
    step inst t = ({ inst with machine := inst.machine.fail },
      { t with clock := endsAt, phase := .done .failed },
      [⟨endsAt, .failed details Timestamp.epoch⟩, ⟨endsAt, .status .failed Timestamp.epoch⟩]) := by
  unfold step
  rw [hp]
  rfl

/-- The end of a superstep that did not fail: the deliveries handed on, then the responses
absorbed, make the next superstep; with none, the run converges. -/
theorem step_of_converging {next : List Delivery} {endsAt : Nat}
    (hp : t.phase = .closing next none endsAt) :
    (step inst t).2.1.phase =
      if (next ++ inst.machine.injected).isEmpty then
        .done (if inst.machine.pending.isEmpty then .idle else .idleWithPendingRequests)
      else .ready (next ++ inst.machine.injected) := by
  unfold step
  rw [hp]
  by_cases h : (next ++ inst.machine.injected).isEmpty <;> simp [Machine.converge, h]

end Task

/-! ## A superstep in which a handler fails -/

/-- What a run of the instance `inst` reports and leaves when the superstep the run `t` starts
on the deliveries `ds` has a failing call. -/
structure FailedSuperstep (inst : Instance) (t : Task) (ds : List Delivery) : Prop where
  /-- Every delivery is handed to its handler, in queue order. -/
  dispatched : (t.invocations inst ds).map Prod.fst = ds
  /-- The superstep reports one block per call, in queue order, each with the outputs and
  requests its handler made, up to where it stopped if it failed, and then
  `SuperstepCompleted`. -/
  blocks : (Task.step inst t).2.2.map (·.event) = superstepTrace (t.supersteps + 1)
    ((t.invocations inst ds).map fun p => ⟨p.1.target, p.2.effects⟩)
  /-- The first failing call in queue order, with error `e`, is the failure: the superstep hands
  on only the sends of calls that succeeded. Whenever it ends, on whatever the instance has become
  (`inst'`), the run reports `Failed` for that call's executor with the text of `e`, then
  `Status(FAILED)`; the machine is `FAILED` with nothing pending or absorbed, the stores are kept,
  and the run is over, so no further superstep runs. A panic's text is its payload's. -/
  first : ∃ (pre post : List (Delivery × Instance.Invocation)) (d : Delivery)
      (inv : Instance.Invocation) (e : ExecutorError),
    t.invocations inst ds = pre ++ (d, inv) :: post ∧ (∀ q ∈ pre, q.2.result = .ok ()) ∧
    inv.result = .error e ∧ (∀ p : Panic, e = p.toError → e.message = "Executor panicked: " ++ p.text) ∧
    ∃ endsAt,
      (Task.step inst t).2.1 =
        { t with
          supersteps := t.supersteps + 1
          phase := .closing ((t.invocations inst ds).flatMap fun p => p.2.routed inst.graph p.1.target)
            (some ⟨.executorFailure, e.message, some d.target⟩) endsAt } ∧
      ∀ inst' : Instance,
        Task.step inst' (Task.step inst t).2.1 =
          ({ inst' with machine := { inst'.machine with state := .failed, pending := [], injected := [] } },
            { t with supersteps := t.supersteps + 1, clock := endsAt, phase := .done .failed },
            [⟨endsAt, .failed ⟨.executorFailure, e.message, some d.target⟩ Timestamp.epoch⟩,
              ⟨endsAt, .status .failed Timestamp.epoch⟩]) ∧
        (Task.step inst' (Task.step inst t).2.1).2.1.isDone = true

/-- **A failing handler does not stop its siblings, and ends the run.** For every instance and
every run between supersteps, below its superstep limit, whose next superstep has a call whose
handler fails (or panics): every delivery is still handed to its handler in queue order and
reported with its outputs and requests; the sends of failing handlers go nowhere; and when the
superstep ends, whatever happened to the instance meanwhile, the run reports `Failed` for the
first failing call in queue order, with its error's text, then `Status(FAILED)`, and leaves the
machine `FAILED` with no request pending and no response absorbed, the stores as they were, and
no further superstep. -/
theorem failing_superstep_isolated (inst : Instance) (t : Task) (ds : List Delivery)
    (hp : t.phase = .ready ds) (hl : t.supersteps < inst.graph.maxSupersteps)
    (hfail : ∃ p ∈ t.invocations inst ds, ∃ e, p.2.result = .error e) :
    FailedSuperstep inst t ds := by
  obtain ⟨hblocks, endsAt, hstep⟩ := Task.step_of_ready hp hl
  obtain ⟨pre, post, d, inv, e, hsplit, hpre, he, hf⟩ := Instance.Invocation.first_failure hfail
  have hclosing : (Task.step inst t).2.1.phase =
      .closing ((t.invocations inst ds).flatMap fun p => p.2.routed inst.graph p.1.target)
        (some ⟨.executorFailure, e.message, some d.target⟩) endsAt := by
    rw [hstep, hf]
  refine ⟨Instance.map_fst_invocations _ _ _, hblocks, pre, post, d, inv, e, hsplit, hpre, he,
    fun p hpe => by rw [hpe]; rfl, endsAt, by rw [hstep, hf], fun inst' => ?_⟩
  rw [Task.step_of_failed hclosing, hstep]
  exact ⟨rfl, rfl⟩

/-- Four text executors: `check` passes on text of five characters or more, `blank` any text
that is not blank, `up` upper-cases and `rev` reverses what they get; `check` passes text on to
`up` and `rev`, and the others to `rev`. -/
def Nodes.checkedTexts : Graph :=
  { name := "checked", start := "check",
    nodes := [Nodes.validator "check" 5, Nodes.upperCaser "up", Nodes.validator "blank" 1,
      Nodes.reverser "rev"],
    edges := [("check", ["up", "rev"]), ("up", ["rev"]), ("blank", ["rev"])],
    maxSupersteps := 100 }

/-- A superstep of the checked texts in which the two middle calls fail, `check` on text too short
and `blank` on blank text, while `up` before them and `rev` after them succeed. -/
theorem validators_fail_between_siblings :
    ∃ ds : List Delivery, ds = [.message "up" (Nodes.text "draft"),
        .message "check" (Nodes.text "no"), .message "blank" (Nodes.text " "),
        .message "rev" (Nodes.text "draft")] ∧
      (({ phase := .ready ds, clock := 0 } : Task).invocations (Instance.new Nodes.checkedTexts)
        ds).map (fun p => p.2.result.toBool) = [true, false, false, true] ∧
      FailedSuperstep (Instance.new Nodes.checkedTexts) { phase := .ready ds, clock := 0 } ds :=
  ⟨_, rfl, by decide, failing_superstep_isolated _ _ _ rfl (by decide)
    ⟨_, List.mem_cons_of_mem _ List.mem_cons_self, _, rfl⟩⟩

/-! ## Routing in a built graph -/

namespace Graph

/-- The targets recorded for a source in per-source edge lists. -/
def targets (edges : List (String × List String)) (id : String) : List String :=
  ((edges.find? (·.1 == id)).map (·.2)).getD []

theorem successors_eq_targets (g : Graph) (id : String) : g.successors id = targets g.edges id := rfl

theorem eraseDups_append_singleton {α : Type} [BEq α] [LawfulBEq α] (l : List α) (d : α) :
    (l ++ [d]).eraseDups = if d ∈ l then l.eraseDups else l.eraseDups ++ [d] := by
  rw [List.eraseDups_append]
  by_cases h : d ∈ l <;> simp [h, List.removeAll, List.eraseDups_cons]

theorem nodup_eraseDups {α : Type} [BEq α] [LawfulBEq α] : (l : List α) → l.eraseDups.Nodup
  | [] => List.nodup_nil
  | a :: as => by
    rw [List.eraseDups_cons]
    have := nodup_eraseDups (as.filter fun b => !b == a)
    exact List.nodup_cons.2 ⟨by simp [List.mem_eraseDups], this⟩
termination_by l => l.length
decreasing_by exact Nat.lt_succ_of_le (List.length_filter_le _ _)

/-- Adding an edge appends its target to its source's, unless the edge is there already. -/
theorem targets_addEdge (edges : List (String × List String)) (s d x : String) :
    targets (addEdge edges s d) x =
      if x = s ∧ d ∉ targets edges x then targets edges x ++ [d] else targets edges x := by
  unfold addEdge
  cases hf : edges.find? (·.1 == s) with
  | none =>
    by_cases hx : x = s
    · subst hx
      simp [targets, List.find?_append, hf]
    · simp [targets, List.find?_append, hx, Ne.symm hx]
  | some e =>
    obtain ⟨s', ds⟩ := e
    have hs' : s' = s := by simpa using List.find?_some hf
    have hds : targets edges s = ds := by simp [targets, hf]
    dsimp only
    by_cases hd : ds.contains d
    · rw [if_pos hd]
      by_cases hx : x = s
      · subst hx
        simp [hds, List.contains_iff_mem.1 hd]
      · simp [hx]
    · rw [if_neg hd]
      unfold targets
      rw [find?_map_of_fst (by rintro ⟨k, ts⟩; by_cases hk : k = s <;> simp [hk])]
      by_cases hx : x = s
      · subst hx
        simp [hf, hs', List.contains_iff_mem.not.1 hd]
      · cases hx' : edges.find? (·.1 == x) with
        | none => simp [hx]
        | some e =>
          have hk : e.1 = x := by simpa using List.find?_some hx'
          have hks : e.1 ≠ s := hk ▸ hx
          simp [hx, hks]

/-- An edge joins the targets of its source, kept without repeats. -/
theorem targets_addEdge_eraseDups {acc : List (String × List String)} (A : String → List String)
    (hacc : ∀ x, targets acc x = (A x).eraseDups) (s d y : String) :
    targets (addEdge acc s d) y = (if y = s then A y ++ [d] else A y).eraseDups := by
  rw [targets_addEdge, hacc]
  by_cases hy : y = s
  · simp [hy, eraseDups_append_singleton, List.mem_eraseDups]
  · simp [hy]

end Graph

namespace Graph.Builder

/-- Collecting edges keeps, for each source, the targets of its edges in order without repeats,
after those it had. -/
theorem collectEdges_targets {ids : List String} {es : List (String × String)}
    {acc edges : List (String × List String)} (A : String → List String)
    (hacc : ∀ x, targets acc x = (A x).eraseDups) (h : collectEdges ids es acc = .ok edges)
    (x : String) : targets edges x = (A x ++ (es.filter (·.1 == x)).map (·.2)).eraseDups := by
  induction es generalizing acc A with
  | nil =>
    simp only [collectEdges, Except.ok.injEq] at h
    subst h
    simpa using hacc x
  | cons e es ih =>
    obtain ⟨s, d⟩ := e
    simp only [collectEdges] at h
    split at h
    · cases h
    split at h
    · cases h
    rw [ih _ (targets_addEdge_eraseDups A hacc s d) h]
    by_cases hx : x = s
    · subst hx
      simp
    · simp [hx, Ne.symm hx]

/-- A built graph keeps the executors registered and the edges collected from the builder's. -/
theorem build_edges {b : Builder} {g : Graph} (h : b.build = .ok g) :
    collectEdges (b.executors.map (·.id)) b.edges [] = .ok g.edges ∧ g.nodes = b.executors := by
  cases he : collectEdges (b.executors.map (·.id)) b.edges [] with
  | error e =>
    simp [build, he, bind, Except.bind, throw, throwThe, MonadExceptOf.throw] at h
    split at h
    · cases h
    · split at h <;> cases h
  | ok edges =>
    simp [build, he, bind, Except.bind, throw, throwThe, MonadExceptOf.throw, pure] at h
    split at h
    · cases h
    split at h
    · cases h
    split at h
    · cases h
    split at h
    · cases h
    · cases h
      exact ⟨rfl, rfl⟩

/-- The successors of a source in a built graph are the targets of its edges, in the order of
their first edge, without repeats. -/
theorem successors_of_build {b : Builder} {g : Graph} (h : b.build = .ok g) (s : String) :
    g.successors s = ((b.edges.filter (·.1 == s)).map (·.2)).eraseDups := by
  have := collectEdges_targets (fun _ => []) (fun _ => rfl) (build_edges h).1 s
  simpa [successors_eq_targets] using this

theorem mem_route_of_build {b : Builder} {g : Graph} (h : b.build = .ok g)
    (s kind : String) (target : Option String) (x : String) :
    x ∈ g.route s kind target ↔ (s, x) ∈ b.edges ∧ (target = none ∨ target = some x) ∧
      ∃ e, g.executor? x = some e ∧ e.caps.canHandle kind = true := by
  unfold route
  rw [List.mem_filter, successors_of_build h, List.mem_eraseDups]
  have hedge : x ∈ (b.edges.filter (·.1 == s)).map (·.2) ↔ (s, x) ∈ b.edges := by
    simp only [List.mem_map, List.mem_filter, beq_iff_eq, Prod.exists]
    constructor
    · rintro ⟨a, y, ⟨hmem, rfl⟩, rfl⟩
      exact hmem
    · intro hmem
      exact ⟨s, x, ⟨hmem, rfl⟩, rfl⟩
  rw [hedge]
  cases target <;> cases g.executor? x <;> simp

end Graph.Builder

/-! ## The responses a run absorbs -/

namespace Task

/-- Whether the run's next step ends its superstep or the run: a superstep to close, or one to
start with none left. -/
def closes (inst : Instance) (t : Task) : Bool :=
  match t.phase with
  | .ready _ => inst.graph.maxSupersteps ≤ t.supersteps
  | .closing .. => true
  | .done _ => false

/-- A step that ends a superstep or the run empties the absorbed responses; any other keeps
them. -/
theorem Stepped.injected {inst inst' : Instance} {t t' : Task} {es : List Stamped}
    (h : Stepped inst t inst' t' es) :
    inst'.machine.injected = if t.closes inst then [] else inst.machine.injected := by
  cases h with
  | ended s hp => simp [closes, hp]
  | limit next hp hl => simp [closes, hp, hl, Instance.failRun, Machine.fail]
  | superstep next hp hl =>
    obtain ⟨regs, hm, -, -⟩ := inst.superstep_registers (t.supersteps + 1) t.clock next
    simp [closes, hp, Nat.not_le.2 hl, hm]
  | failure next details endsAt hp => simp [closes, hp, Instance.failRun, Machine.fail]
  | converge next endsAt s hp _ => simp [closes, hp]
  | next next endsAt ds hp _ => simp [closes, hp]

end Task

namespace World

/-- The responses absorbed into the run in flight after an action, from `acc` before it: a
batch given while a run is in flight joins them, in order; a step that ends a superstep or the
run, and a dropped runner of a run in flight, empty them; with no run in flight there are
none. -/
def keepAbsorbed (w : World) (acc : List Delivery) : Action → List Delivery
  | .begin .. => if w.inst.runState = .running then acc else []
  | .respond rs time =>
    if w.inst.runState = .running then acc ++ w.created (.respond rs time) else []
  | .reset => acc
  | .step i =>
    match w.runs[i]? with
    | some t => if t.closes w.inst then [] else acc
    | none => acc
  | .drop i =>
    match w.runs[i]? with
    | some t => if t.isDone then acc else []
    | none => acc

/-- The responses absorbed along a history, from `acc` before it. -/
def absorbedSince (w : World) (acc : List Delivery) : List Action → List Delivery
  | [] => acc
  | a :: as => (w.apply a).1.absorbedSince (w.keepAbsorbed acc a) as

variable {w : World} {log : List Event}

/-- An entry point absorbs the batch it accepts into the run in flight, and nothing else. -/
theorem Inv.injected_moves (hi : w.Inv log) {a : Action} {w' : World} {es : List Event}
    (hm : Moves w a w' es) (ha : ∀ i, a ≠ .step i ∧ a ≠ .drop i) :
    w'.inst.machine.injected = w.keepAbsorbed w.inst.machine.injected a := by
  cases hm with
  | stay a _ hcr =>
    cases a with
    | begin req time =>
      by_cases hr : w.inst.runState = .running
      · simp [keepAbsorbed, hr]
      · simpa [keepAbsorbed, hr] using hi.consistent.absorbed hr
    | respond rs time =>
      by_cases hr : w.inst.runState = .running
      · simp [keepAbsorbed, hr, hcr]
      · simpa [keepAbsorbed, hr] using hi.consistent.absorbed hr
    | reset => rfl
    | step i => exact absurd rfl (ha i).1
    | drop i => exact absurd rfl (ha i).2
  | fresh req m time hidle => simp [keepAbsorbed, hidle]
  | resume a rs time hidle _ _ ha' =>
    have hnil := hi.consistent.absorbed hidle
    rcases ha' with rfl | ⟨req, rfl⟩ <;> simpa [keepAbsorbed, hidle] using hnil
  | absorb rs time hr _ _ _ hcr => simp [keepAbsorbed, hr, hcr]
  | reset stores hidle => rfl
  | step i t => exact absurd rfl (ha i).1
  | drop i t => exact absurd rfl (ha i).2

/-- **What one action does to the absorbed responses** (`keepAbsorbed`). -/
theorem Inv.injected_apply (hi : w.Inv log) (a : Action) :
    (w.apply a).1.inst.machine.injected = w.keepAbsorbed w.inst.machine.injected a := by
  cases a with
  | step i =>
    rcases apply_step_cases (w := w) i with ⟨ht, happ⟩ | ⟨t, ht, e⟩
    · simp [happ, keepAbsorbed, ht]
    · simpa [keepAbsorbed, ht] using e.injected
  | drop i =>
    cases ht : w.runs[i]? with
    | none => simp [apply, keepAbsorbed, ht]
    | some t =>
      cases hd : t.isDone with
      | true => simp [apply, keepAbsorbed, ht, hd, Task.drop]
      | false => simp [apply, keepAbsorbed, ht, hd, hi.drop_machine ht hd, Machine.fail]
  | begin req time => exact hi.injected_moves (apply_moves w _) (by simp)
  | respond rs time => exact hi.injected_moves (apply_moves w _) (by simp)
  | reset => exact hi.injected_moves (apply_moves w _) (by simp)

/-- Along a history, the absorbed responses are those `absorbedSince` collects. -/
theorem Inv.injected_after (hi : w.Inv log) (as : List Action) :
    (w.after as).inst.machine.injected = w.absorbedSince w.inst.machine.injected as := by
  induction as generalizing w log with
  | nil => rfl
  | cons a as ih =>
    rw [after, absorbedSince, ih (hi.moves (apply_moves w a)), hi.injected_apply a]

/-- Closing a superstep along a history of a fresh instance: the next superstep gets the
deliveries handed on, then the responses absorbed since, and the run converges when there are
none. -/
theorem closing_step (g : Graph) (as : List Action) {i : Nat} {t : Task} {next : List Delivery}
    {endsAt : Nat} (ht : ((init g).after as).runs[i]? = some t)
    (hp : t.phase = .closing next none endsAt) :
    ∃ t', (((init g).after as).apply (.step i)).1.runs[i]? = some t' ∧
      t'.phase = if (next ++ (init g).absorbedSince [] as).isEmpty then
          .done (if ((init g).after as).inst.machine.pending.isEmpty then .idle
            else .idleWithPendingRequests)
        else .ready (next ++ (init g).absorbedSince [] as) := by
  have hinj : ((init g).after as).inst.machine.injected = (init g).absorbedSince [] as :=
    (inv_init g).injected_after as
  refine ⟨(Task.step ((init g).after as).inst t).2.1, ?_, ?_⟩
  · simp only [apply, ht]
    exact List.getElem?_set_self (List.getElem?_eq_some_iff.1 ht).1
  · rw [Task.step_of_converging hp, hinj]

end World

/-- **The bulk-synchronous schedule.** A superstep in which no handler fails hands every
delivery to its handler in queue order, and hands on, for each in turn, the messages its
handler sent, in the order sent, each to every receiver `Graph.route` finds for its sender,
without failing the run. When it closes, along any history of a fresh instance, the next
superstep gets those deliveries followed by the responses absorbed since the previous superstep
closed or the run began (`World.absorbedSince`), and the run converges exactly when there are
none. In a built graph, a message goes to the distinct targets of its sender's edges, in the
order of their first edge, narrowed to the named target and to executors that accept its
kind. -/
theorem superstep_schedule :
    (∀ (inst : Instance) (t : Task) (ds : List Delivery), t.phase = .ready ds →
      t.supersteps < inst.graph.maxSupersteps →
      (∀ p ∈ t.invocations inst ds, p.2.result = .ok ()) →
      (t.invocations inst ds).map Prod.fst = ds ∧
      ∃ endsAt, (Task.step inst t).2.1 =
        { t with
          supersteps := t.supersteps + 1
          phase := .closing ((t.invocations inst ds).flatMap fun p =>
            p.2.outbox.flatMap fun o =>
              (inst.graph.route p.1.target o.message.kind o.target).map fun x =>
                .message x o.message) none endsAt }) ∧
    (∀ (g : Graph) (as : List Action) (i : Nat) (t : Task) (next : List Delivery) (endsAt : Nat),
      ((World.init g).after as).runs[i]? = some t → t.phase = .closing next none endsAt →
      ∃ t', (((World.init g).after as).apply (.step i)).1.runs[i]? = some t' ∧
        t'.phase = if (next ++ (World.init g).absorbedSince [] as).isEmpty then
            .done (if ((World.init g).after as).inst.machine.pending.isEmpty then .idle
              else .idleWithPendingRequests)
          else .ready (next ++ (World.init g).absorbedSince [] as)) ∧
    (∀ (b : Graph.Builder) (g : Graph), b.build = .ok g →
      ∀ (s kind : String) (target : Option String),
        g.successors s = ((b.edges.filter (·.1 == s)).map (·.2)).eraseDups ∧
        (g.route s kind target).Sublist (g.successors s) ∧ (g.route s kind target).Nodup ∧
        ∀ x, x ∈ g.route s kind target ↔ (s, x) ∈ b.edges ∧ (target = none ∨ target = some x) ∧
          ∃ e, g.executor? x = some e ∧ e.caps.canHandle kind = true) := by
  refine ⟨fun inst t ds hp hl hok => ?_, fun g as i t next endsAt ht hp => ?_,
    fun b g hb s kind target => ?_⟩
  · obtain ⟨-, endsAt, hstep⟩ := Task.step_of_ready hp hl
    have hrouted : ((t.invocations inst ds).flatMap fun p => p.2.routed inst.graph p.1.target) =
        (t.invocations inst ds).flatMap fun p => Instance.routeAll inst.graph p.1.target p.2.outbox :=
      List.flatMap_congr fun p hp => by simp [Instance.Invocation.routed, hok p hp]
    have hnone : (t.invocations inst ds).findSome? (fun p => p.2.failure? p.1.target) = none :=
      List.findSome?_eq_none_iff.2 fun p hp =>
        Instance.Invocation.failure?_eq_none_iff.2 (hok p hp)
    exact ⟨Instance.map_fst_invocations _ _ _, endsAt, by rw [hstep, hrouted, hnone]; rfl⟩
  · exact World.closing_step g as ht hp
  · have hsucc := Graph.Builder.successors_of_build hb s
    refine ⟨hsucc, List.filter_sublist, ?_, Graph.Builder.mem_route_of_build hb s kind target⟩
    rw [Graph.route, hsucc]
    exact (Graph.nodup_eraseDups _).filter _

/-- The schedule on the checked texts. A superstep in which every call succeeds hands on the
sends of `check` and `blank`, in order, to the targets of their edges, and those of `rev`, which
has none, nowhere. The run begun on `hello`, once its first superstep closes, goes on to a
superstep of what `check` sent. A builder given the edge from `check` to `up` twice routes
text from `check` to `up` and `rev` once each. -/
theorem checked_texts_scheduled :
    (∃ (t : Task) (ds : List Delivery), ds = [.message "check" (Nodes.text "hello"),
        .message "blank" (Nodes.text "x"), .message "rev" (Nodes.text "abc")] ∧
      t = { phase := .ready ds, clock := 0 } ∧
      (∀ p ∈ t.invocations (Instance.new Nodes.checkedTexts) ds, p.2.result = .ok ()) ∧
      ∃ endsAt, (Task.step (Instance.new Nodes.checkedTexts) t).2.1.phase =
        .closing [.message "up" (Nodes.text "hello"), .message "rev" (Nodes.text "hello"),
          .message "rev" (Nodes.text "x")] none endsAt) ∧
    (∃ (as : List Action) (t : Task) (next : List Delivery) (endsAt : Nat),
      as = [.begin { message := some (Nodes.text "hello") } 0, .step 0] ∧
      ((World.init Nodes.checkedTexts).after as).runs[0]? = some t ∧
      t.phase = .closing next none endsAt ∧
      ∃ t', (((World.init Nodes.checkedTexts).after as).apply (.step 0)).1.runs[0]? = some t' ∧
        t'.phase = .ready next) ∧
    (∃ (b : Graph.Builder) (g : Graph),
      b = (((Graph.Builder.new (Nodes.validator "check" 5)).addEdge (Nodes.validator "check" 5)
        (Nodes.upperCaser "up")).addEdge (Nodes.validator "check" 5) (Nodes.reverser "rev")).addEdge
          (Nodes.validator "check" 5) (Nodes.upperCaser "up") ∧
      b.build = .ok g ∧ g.successors "check" = ["up", "rev"] ∧
      (g.route "check" Nodes.textKind none).Nodup) := by
  refine ⟨?_, ?_, ?_⟩
  · obtain ⟨-, endsAt, hstep⟩ := superstep_schedule.1 (Instance.new Nodes.checkedTexts)
      { phase := .ready [.message "check" (Nodes.text "hello"),
          .message "blank" (Nodes.text "x"), .message "rev" (Nodes.text "abc")], clock := 0 }
      [.message "check" (Nodes.text "hello"),
          .message "blank" (Nodes.text "x"), .message "rev" (Nodes.text "abc")] rfl (by decide)
      (by decide)
    exact ⟨_, _, rfl, rfl, by decide, endsAt, by rw [hstep]; rfl⟩
  · obtain ⟨t', ht', hphase⟩ := superstep_schedule.2.1 Nodes.checkedTexts
      [.begin { message := some (Nodes.text "hello") } 0, .step 0] 0 _ _ _ rfl rfl
    exact ⟨_, _, _, _, rfl, rfl, rfl, t', ht', by rw [hphase]; rfl⟩
  · obtain ⟨g, hb⟩ : ∃ g, ((((Graph.Builder.new (Nodes.validator "check" 5)).addEdge
        (Nodes.validator "check" 5) (Nodes.upperCaser "up")).addEdge (Nodes.validator "check" 5)
          (Nodes.reverser "rev")).addEdge (Nodes.validator "check" 5)
            (Nodes.upperCaser "up")).build = .ok g := ⟨_, rfl⟩
    obtain ⟨hsucc, -, hnodup, -⟩ := superstep_schedule.2.2 _ g hb "check" Nodes.textKind none
    exact ⟨_, g, rfl, hb, by rw [hsucc]; decide, hnodup⟩

end Superstep
