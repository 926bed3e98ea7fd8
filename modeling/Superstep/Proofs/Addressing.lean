import Mathlib
import Superstep.Proofs.Schedule
import Superstep.Proofs.Handle

/-!
# Every delivery reaches an executor that takes it

`dispatch` checks two things before it calls a handler: that the delivery's target is an
executor of the graph, and, for a message, that the target accepts the message's kind
(`Delivery.Accepted`). Neither check ever fails on a delivery a run queues. A first message
passed the same check when the run began; a routed message went only to edge targets that
accept its kind; and a response goes to the source of the request it answers, which is always
the executor whose handler made the request, as long as handlers record requests only in their
own name (`Graph.Sourced`). That last fact travels with the request through the table of
pending requests, into the responses absorbed by a run in flight, and across runs
(`World.Addressed`).

The check on responses is not covered: a response reaches its target's response handler only
when the target declares the request and response kinds, and otherwise fails the call.

The main statement is `queued_deliveries_accepted`.
-/

namespace Superstep

/-- A delivery that passes `dispatch`'s checks: its target is an executor of the graph, and a
message's kind is one the target accepts. -/
def Delivery.Accepted (g : Graph) : Delivery → Prop
  | .message t m => ∃ e, g.executor? t = some e ∧ e.caps.canHandle m.kind = true
  | .response t .. => (g.executor? t).isSome

/-- The tables of a run-state machine name executors of `g`: the source of every pending
request, and the target of every absorbed response. -/
structure Machine.Addressed (g : Graph) (m : Machine) : Prop where
  sources : ∀ p ∈ m.pending, (g.executor? p.source).isSome
  absorbed : ∀ d ∈ m.injected, d.Accepted g

namespace Machine

variable {g : Graph} {m : Machine}

theorem addressed_fail (m : Machine) : m.fail.Addressed g :=
  ⟨fun _ h => by simp [fail] at h, fun _ h => by simp [fail] at h⟩

theorem Addressed.registerAll (h : m.Addressed g) {rs : List Request}
    (hrs : ∀ r ∈ rs, (g.executor? r.source).isSome) : (m.registerAll rs).Addressed g := by
  refine ⟨fun p hp => ?_, h.absorbed⟩
  rcases List.mem_append.1 hp with hp | hp
  · exact h.sources p hp
  · exact hrs p hp

theorem Addressed.converge (h : m.Addressed g) (next : List Delivery) :
    (m.converge next).1.Addressed g :=
  ⟨fun p hp => h.sources p (by simpa using hp), fun d hd => by simp at hd⟩

/-- Answering a valid batch keeps the other requests, whose sources are executors, and addresses
each response to the source of its request. -/
theorem Addressed.take (h : m.Addressed g) {rs : List (String × Message)}
    (hv : Valid m.pending rs) :
    (∀ p ∈ (take m.pending rs).1, (g.executor? p.source).isSome) ∧
      ∀ d ∈ (take m.pending rs).2, d.Accepted g := by
  have hans := take_answered hv
  refine ⟨fun p hp => h.sources p (hans.sublist.subset hp), fun d hd => ?_⟩
  obtain ⟨p, hp, response, rfl, -⟩ := hans.answer_of_mem hv hd
  exact h.sources p hp

end Machine

namespace Instance

variable {inst : Instance}

/-- A message routed by the graph goes to an edge target that accepts its kind. -/
theorem routeAll_accepted (g : Graph) (source : String) (outbox : List Outgoing) :
    ∀ d ∈ routeAll g source outbox, d.Accepted g := by
  intro d hd
  obtain ⟨o, -, t, ht, rfl⟩ : ∃ o ∈ outbox, ∃ t ∈ g.route source o.message.kind o.target,
      Delivery.message t o.message = d := by
    simpa [routeAll] using hd
  unfold Graph.route at ht
  rw [List.mem_filter, Bool.and_eq_true] at ht
  obtain ⟨-, -, hcap⟩ := ht
  cases hx : g.executor? t with
  | none => simp [hx] at hcap
  | some e => exact ⟨e, hx, by simpa [hx] using hcap⟩

/-- A call records requests only for an executor of the graph: its target, when the target is
one, and none at all when it is not. -/
theorem dispatch_requests_found (hg : inst.graph.Sourced) (n : Nat) (d : Delivery) :
    ∀ r ∈ Effect.requests (inst.dispatch n d).2.effects, (inst.graph.executor? r.source).isSome := by
  intro r hr
  rw [inst.dispatch_sourced hg n d r hr]
  cases hx : inst.graph.executor? d.target with
  | some e => rfl
  | none =>
    rcases d with ⟨t, m⟩ | ⟨t, rid, q, r'⟩ <;> simp only [Delivery.target] at hx <;>
      simp [dispatch, Delivery.target, hx, Effect.requests] at hr

/-- A first message that starts a run passed the start executor's check. -/
theorem begin_message_accepted {req : RunRequest} {m : Message} {x : Instance × List Delivery}
    (h : inst.begin req = .ok x) (hm : req.message = some m) :
    (Delivery.message inst.graph.start m).Accepted inst.graph := by
  have hrs : ∀ rs ∈ req.responses, rs = [] := by
    intro rs hrs
    by_contra hne
    rw [begin_of_conflicting hm hrs hne] at h
    cases h
  rw [begin_of_message hm hrs] at h
  by_cases hr : inst.runState = .running
  · simp [hr] at h
  by_cases hacc : inst.graph.startAccepts m.kind = true
  · unfold Graph.startAccepts at hacc
    cases hx : inst.graph.executor? inst.graph.start with
    | none => simp [hx] at hacc
    | some e => exact ⟨e, hx, by simpa [hx] using hacc⟩
  · simp [hr, hacc] at h

theorem deliver_machine (n : Nat) (s : Step) (d : Delivery) :
    (deliver n s d).inst.machine =
      s.inst.machine.registerAll (Effect.requests (s.inst.dispatch n d).2.effects) := by
  simp [deliver, publish_fst]

/-- One call keeps the machine's tables addressed, and hands on only accepted deliveries. -/
theorem deliver_addressed (n : Nat) {s : Step} (hg : s.inst.graph.Sourced)
    (hm : s.inst.machine.Addressed s.inst.graph) (hq : ∀ d ∈ s.next, d.Accepted s.inst.graph)
    (d : Delivery) :
    (deliver n s d).inst.machine.Addressed s.inst.graph ∧
      ∀ x ∈ (deliver n s d).next, x.Accepted s.inst.graph := by
  refine ⟨deliver_machine n s d ▸ hm.registerAll (s.inst.dispatch_requests_found hg n d), ?_⟩
  intro x hx
  rw [deliver_next, List.mem_append] at hx
  rcases hx with hx | hx
  · exact hq x hx
  · unfold Invocation.routed at hx
    split at hx
    · exact routeAll_accepted _ _ _ x hx
    · simp at hx

/-- The calls of a superstep keep the machine's tables addressed, and hand on only accepted
deliveries. -/
theorem foldl_deliver_addressed (n : Nat) (ds : List Delivery) {s : Step}
    (hg : s.inst.graph.Sourced) (hm : s.inst.machine.Addressed s.inst.graph)
    (hq : ∀ d ∈ s.next, d.Accepted s.inst.graph) :
    (ds.foldl (deliver n) s).inst.machine.Addressed s.inst.graph ∧
      ∀ x ∈ (ds.foldl (deliver n) s).next, x.Accepted s.inst.graph := by
  induction ds generalizing s with
  | nil => exact ⟨hm, hq⟩
  | cons d ds ih =>
    obtain ⟨hm', hq'⟩ := deliver_addressed n hg hm hq d
    have hgraph := deliver_graph n s d
    rw [List.foldl_cons, ← hgraph]
    exact ih (hgraph ▸ hg) (hgraph ▸ hm') (hgraph ▸ hq')

theorem superstep_addressed (hg : inst.graph.Sourced) (hm : inst.machine.Addressed inst.graph)
    (n start : Nat) (ds : List Delivery) :
    (inst.superstep n start ds).inst.machine.Addressed inst.graph ∧
      ∀ x ∈ (inst.superstep n start ds).next, x.Accepted inst.graph :=
  foldl_deliver_addressed n ds (s := ⟨inst, _, start, [], none⟩) hg hm (by simp)

end Instance

namespace Task

/-- **A step of a run keeps its deliveries accepted.** From an instance whose tables are
addressed and a run whose upcoming deliveries are accepted, a step leaves the tables addressed
and the run's upcoming deliveries accepted: a superstep hands on only routed messages, and the
end of a superstep adds the absorbed responses to the deliveries handed on. -/
theorem Stepped.addressed {inst inst' : Instance} {t t' : Task} {es : List Stamped}
    (e : Stepped inst t inst' t' es) (hg : inst.graph.Sourced)
    (hm : inst.machine.Addressed inst.graph) (hq : ∀ d ∈ t.upcoming, d.Accepted inst.graph) :
    inst'.machine.Addressed inst.graph ∧ ∀ d ∈ t'.upcoming, d.Accepted inst.graph := by
  cases e with
  | ended s hs => exact ⟨hm, hq⟩
  | limit next hp hl => exact ⟨Machine.addressed_fail inst.machine, by simp [upcoming]⟩
  | superstep next hp hl =>
    simpa [upcoming] using inst.superstep_addressed hg hm (t.supersteps + 1) t.clock next
  | failure next details endsAt hp => exact ⟨Machine.addressed_fail inst.machine, by simp [upcoming]⟩
  | converge next endsAt s hp hs => exact ⟨hm.converge next, by simp [upcoming]⟩
  | next next endsAt ds hp hds =>
    refine ⟨hm.converge next, fun d hd => ?_⟩
    have hds' : ds = next ++ inst.machine.injected := by
      rw [Machine.converge_snd] at hds
      split at hds
      · cases hds
      · exact (Except.ok.inj hds).symm
    simp only [upcoming, hds', List.mem_append] at hd
    rcases hd with hd | hd
    · exact hq d (by simpa [upcoming, hp] using hd)
    · exact hm.absorbed d hd

end Task

namespace World

/-- Every delivery an instance holds addresses an executor that takes it: the machine's tables
are addressed, and so are the upcoming deliveries of every run. -/
structure Addressed (w : World) : Prop where
  machine : w.inst.machine.Addressed w.inst.graph
  queued : ∀ t ∈ w.runs, ∀ d ∈ t.upcoming, d.Accepted w.inst.graph

theorem addressed_init (g : Graph) : (init g).Addressed :=
  ⟨⟨fun _ h => by simp [init, Instance.new] at h, fun _ h => by simp [init, Instance.new] at h⟩,
    fun _ h => by simp [init] at h⟩

/-- A run that starts keeps every delivery addressed when its machine's tables are, and its
first deliveries are accepted. -/
theorem Addressed.opened {w : World} (h : w.Addressed) {machine : Machine}
    (hm : machine.Addressed w.inst.graph) {ds : List Delivery}
    (hds : ∀ d ∈ ds, d.Accepted w.inst.graph) (time : Nat) : (w.opened machine ds time).Addressed := by
  refine ⟨hm, fun t ht d hd => ?_⟩
  rcases List.mem_append.1 ht with ht | ht
  · exact h.queued t ht d hd
  · rw [List.mem_singleton.1 ht] at hd
    exact hds d hd

/-- **Every move keeps every delivery addressed.** -/
theorem Addressed.moves {w w' : World} {a : Action} {es : List Event} (h : w.Addressed)
    (hg : w.inst.graph.Sourced) (hm : Moves w a w' es) : w'.Addressed := by
  cases hm with
  | stay => exact h
  | fresh req m time hidle hmsg hrel =>
    obtain ⟨⟨⟨inst₀, h₀⟩, hstart⟩, -⟩ := hrel ""
    obtain ⟨inst', ds, hb, -, -⟩ := Background.start_eq_ok hstart
    refine h.opened ⟨fun _ hp => by simp at hp, fun _ hd => by simp at hd⟩ ?_ time
    intro d hd
    rw [List.mem_singleton.1 hd]
    exact Instance.begin_message_accepted hb hmsg
  | resume a rs time hidle hne hv =>
    obtain ⟨hleft, hds⟩ := h.machine.take hv
    refine h.opened ?_ hds time
    exact ⟨hleft, h.machine.absorbed⟩
  | absorb rs time hr hne hv =>
    obtain ⟨hleft, hds⟩ := h.machine.take hv
    refine ⟨⟨hleft, fun d hd => ?_⟩, h.queued⟩
    rcases List.mem_append.1 hd with hd | hd
    · exact h.machine.absorbed d hd
    · exact hds d hd
  | reset stores hidle => exact ⟨h.machine, h.queued⟩
  | step i t ht hd =>
    obtain ⟨hm', hq'⟩ := (Task.stepped w.inst t).addressed hg h.machine
      (h.queued t (List.mem_of_getElem? ht))
    refine ⟨by rwa [Task.step_graph], fun t' ht' d hd' => ?_⟩
    rw [Task.step_graph]
    rcases List.mem_or_eq_of_mem_set ht' with ht' | rfl
    · exact h.queued t' ht' d hd'
    · exact hq' d hd'
  | drop i t ht =>
    have hgraph : (Task.drop w.inst t).graph = w.inst.graph := by
      unfold Task.drop
      split <;> rfl
    refine ⟨?_, fun t' ht' => hgraph ▸ h.queued t' (List.mem_of_mem_eraseIdx ht')⟩
    rw [hgraph]
    unfold Task.drop Machine.abandon
    split
    · exact h.machine
    · split
      · exact Machine.addressed_fail w.inst.machine
      · exact h.machine

end World

/-- Every world a fresh instance of a graph reaches has every delivery addressed, when the
graph's handlers record requests only in their own name. -/
theorem Reachable.addressed {w : World} {log : List Event} (h : Reachable w log)
    (hg : w.inst.graph.Sourced) : w.Addressed := by
  induction h with
  | init g => exact World.addressed_init g
  | @step w log a _ ih =>
    have hgraph := (World.apply_graph_keys (w := w) a).1
    exact (ih (hgraph ▸ hg)).moves (hgraph ▸ hg) (World.apply_moves _ a)

/-- **Dispatch never misses its target.** In every world a fresh instance of a graph reaches,
through any interleaving of starts, responses, resets, steps of runs and dropped runners, and
whatever its handlers do as long as they record requests only in their own name: every
delivery a run holds for its next superstep, and every response absorbed into the run in
flight, is addressed to an executor of the graph, and every message among them has a kind its
target accepts; and every pending request names an executor of the graph as its source. So
`dispatch` always finds the target of a delivery and never turns a message away for its
kind. -/
theorem queued_deliveries_accepted {w : World} {log : List Event} (h : Reachable w log)
    (hg : w.inst.graph.Sourced) :
    (∀ t ∈ w.runs, ∀ d ∈ t.upcoming ++ w.inst.machine.injected, d.Accepted w.inst.graph) ∧
      ∀ p ∈ w.inst.pending, (w.inst.graph.executor? p.source).isSome := by
  have ha := h.addressed hg
  refine ⟨fun t ht d hd => ?_, ha.machine.sources⟩
  rcases List.mem_append.1 hd with hd | hd
  · exact ha.queued t ht d hd
  · exact ha.machine.absorbed d hd

/-- An executor that asks for input on every text message, and declares no response handler. -/
def Nodes.asker : Executor where
  id := "asker"
  caps := { accepts := [Nodes.textKind] }
  handle m := do
    let _ ← Handler.requestInfo m Nodes.textKind
    pure ()
  handleResponse := Executor.noResponseHandler "asker"

/-- The workflow of the asking executor alone. -/
def Nodes.askerFlow : Graph :=
  { name := "ask", start := "asker", nodes := [Nodes.asker], edges := [], maxSupersteps := 10 }

/-- A run of the asking executor that converges waiting for its request, and the answer, which
restarts a run whose first delivery is the response. -/
def Nodes.askAndAnswer : List Action :=
  [.begin { message := some (Nodes.text "hi") } 0, .step 0, .step 0,
    .respond [((Uuid.generated 1).toText, Nodes.text "yes")] 0]

theorem Nodes.askerFlow_sourced : Nodes.askerFlow.Sourced := by
  intro e he
  rw [List.mem_singleton.1 he]
  exact ⟨fun m => (Handler.sourced_requestInfo _ _).bind fun _ => Handler.sourced_pure _,
    fun q r => Handler.sourced_throw _⟩

/-- The restarted run of the asking executor holds one response, addressed to the executor;
calling its handler still fails, for the executor declares no response handler. -/
theorem unhandled_response_addressed :
    Reachable ((World.init Nodes.askerFlow).after Nodes.askAndAnswer)
        ((World.init Nodes.askerFlow).events Nodes.askAndAnswer) ∧
      ((World.init Nodes.askerFlow).after Nodes.askAndAnswer).inst.graph.Sourced ∧
      ((∀ t ∈ ((World.init Nodes.askerFlow).after Nodes.askAndAnswer).runs,
          ∀ d ∈ t.upcoming ++
            ((World.init Nodes.askerFlow).after Nodes.askAndAnswer).inst.machine.injected,
          d.Accepted ((World.init Nodes.askerFlow).after Nodes.askAndAnswer).inst.graph) ∧
        ∀ p ∈ ((World.init Nodes.askerFlow).after Nodes.askAndAnswer).inst.pending,
          (((World.init Nodes.askerFlow).after Nodes.askAndAnswer).inst.graph.executor?
            p.source).isSome) ∧
      (((World.init Nodes.askerFlow).after Nodes.askAndAnswer).runs.flatMap Task.upcoming).map
          (fun d => (((World.init Nodes.askerFlow).after Nodes.askAndAnswer).inst.dispatch 1 d).2.result) =
        [.error (.noResponseHandler "asker" Nodes.textKind Nodes.textKind)] := by
  have hr := (Reachable.init Nodes.askerFlow).after Nodes.askAndAnswer
  rw [List.nil_append] at hr
  have hg : ((World.init Nodes.askerFlow).after Nodes.askAndAnswer).inst.graph.Sourced :=
    Nodes.askerFlow_sourced
  exact ⟨hr, hg, queued_deliveries_accepted hr hg, by decide⟩

end Superstep
