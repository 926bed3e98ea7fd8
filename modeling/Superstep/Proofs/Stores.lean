import Mathlib
import Superstep.Proofs.Correlation
import Superstep.Proofs.Admission
import Superstep.Proofs.Progress

/-!
# The executors' stores along a history

Every executor of an instance has a key/value store that outlives its runs. A handler call reads
and changes the store of the executor it is made for and no other: what the call does with the
instance depends on the stores only through that one (`Instance.dispatch_reads_own_store`), and
what it leaves there is `Dispatch.edit`, the store its reads and writes make of the one it was
given, kept whether the handler succeeds or fails (`Instance.storeOf_dispatch`). Only the handlers
of a superstep and a reset touch the stores: starting a run, answering requests, ending a
superstep, failing or abandoning a run, and every refused call leave them as they are.

Along a history the log of what touched the stores (`World.storeLog`) holds the handler calls of
each superstep in queue order and the resets that went through. The main statement,
`executor_state_persists`, says that after any history of a fresh instance each executor's store
is what its own calls since the last reset made of an empty store, one after the other, whatever
became of the runs they were made in.
-/

namespace Superstep

/-- A handler call: a delivery in superstep `superstep`, made with the instance's id counter at
`ids`. -/
structure Dispatch where
  superstep : Nat
  delivery : Delivery
  ids : Nat

/-- What the handler of a call leaves in its executor's store, when that store was `store`: what
its reads and writes make of it, whether it succeeds or fails. A call to an executor the graph
does not have, or one that does not handle the delivery, leaves the store alone. -/
def Dispatch.edit (g : Graph) (c : Dispatch) (store : List (String × Value)) :
    List (String × Value) :=
  match g.executor? c.delivery.target with
  | none => store
  | some e =>
    let ctx : Context :=
      { executorId := c.delivery.target, superstep := c.superstep, store, ids := c.ids }
    match c.delivery with
    | .message _ m =>
      if e.caps.canHandle m.kind then ((e.handle m).run.run ctx).2.store else store
    | .response _ rid q r =>
      if e.caps.canHandleResponse q.kind r.kind then
        ((e.handleResponse q r).run.run { ctx with requestId := some rid }).2.store
      else store

/-- What touched the stores: a reset, or a handler call. -/
inductive StoreEntry where
  | cleared
  | call (c : Dispatch)

namespace StoreEntry

/-- The store of executor `x` once an entry has touched it. -/
def replayOne (g : Graph) (x : String) :
    List (String × Value) → StoreEntry → List (String × Value)
  | _, .cleared => []
  | store, .call c => if c.delivery.target = x then c.edit g store else store

/-- The calls so far, once an entry is added: none after a reset. -/
def keep : List Dispatch → StoreEntry → List Dispatch
  | _, .cleared => []
  | calls, .call c => calls ++ [c]

/-- The calls of a log made after its last reset, in order. -/
def sinceCleared (log : List StoreEntry) : List Dispatch := log.foldl keep []

/-- Replaying a log from the store its earlier calls made is replaying the calls since the last
reset from an empty store. -/
theorem foldl_replayOne (g : Graph) (x : String) (log : List StoreEntry) (calls : List Dispatch) :
    log.foldl (replayOne g x) ((calls.filter (·.delivery.target = x)).foldl
        (fun store c => c.edit g store) []) =
      ((log.foldl keep calls).filter (·.delivery.target = x)).foldl
        (fun store c => c.edit g store) [] := by
  induction log generalizing calls with
  | nil => rfl
  | cons e log ih =>
    cases e with
    | cleared => exact ih []
    | call c =>
      rw [List.foldl_cons, List.foldl_cons, keep, ← ih (calls ++ [c])]
      by_cases hc : c.delivery.target = x <;> simp [replayOne, hc, List.filter_append]

end StoreEntry

/-- Looking a key up in a list of entries whose keys a map keeps. -/
theorem find?_map_of_fst {β : Type} {f : String × β → String × β}
    (hf : ∀ p, (f p).1 = p.1) (l : List (String × β)) (y : String) :
    (l.map f).find? (·.1 == y) = (l.find? (·.1 == y)).map f := by
  rw [List.find?_map]
  simp only [Function.comp_def, hf]

namespace Instance

/-- Every executor of the graph has a store. -/
def Keyed (inst : Instance) : Prop := ∀ e ∈ inst.graph.nodes, e.id ∈ inst.stores.map Prod.fst

/-- Replacing a store that exists changes what that executor finds, and only that. -/
theorem storeOf_setStore (inst : Instance) {id : String} (h : id ∈ inst.stores.map Prod.fst)
    (s : List (String × Value)) (y : String) :
    (inst.setStore id s).storeOf y = if y = id then s else inst.storeOf y := by
  unfold storeOf setStore
  rw [find?_map_of_fst (by rintro ⟨k, st⟩; by_cases hk : k = id <;> simp [hk])]
  cases hy : inst.stores.find? (·.1 == y) with
  | none =>
    have hne : y ≠ id := by
      rintro rfl
      obtain ⟨p, hp, rfl⟩ := List.mem_map.1 h
      exact absurd hy (List.find?_isSome.2 ⟨p, hp, by simp⟩ |> Option.isSome_iff_ne_none.1)
    simp [hne]
  | some p =>
    have hp : p.1 = y := by simpa using List.find?_some hy
    obtain ⟨k, st⟩ := p
    subst hp
    by_cases hk : k = id <;> simp [hk]

theorem setStore_keys (inst : Instance) (id : String) (s : List (String × Value)) :
    (inst.setStore id s).stores.map Prod.fst = inst.stores.map Prod.fst := by
  simp only [setStore, List.map_map]
  refine List.map_congr_left fun p _ => ?_
  obtain ⟨k, st⟩ := p
  by_cases hk : k = id <;> simp [hk]

/-- **A call reads only its executor's store**: two instances of one graph with the same id
counter and the same store for the call's executor make the same call. -/
theorem dispatch_reads_own_store {inst inst' : Instance} (hg : inst.graph = inst'.graph)
    (hids : inst.ids = inst'.ids) (n : Nat) (d : Delivery)
    (hs : inst.storeOf d.target = inst'.storeOf d.target) :
    (inst.dispatch n d).2 = (inst'.dispatch n d).2 := by
  unfold dispatch
  simp only [hg, hids, hs]
  split <;> rfl

theorem storeOf_congr {inst inst' : Instance} (h : inst.stores = inst'.stores) (y : String) :
    inst.storeOf y = inst'.storeOf y := by
  simp [storeOf, h]

/-- A call to an executor the graph has replaces that executor's store by the handler's edit. -/
theorem dispatch_stores {inst : Instance} (n : Nat) (d : Delivery) {e : Executor}
    (hx : inst.graph.executor? d.target = some e) :
    (inst.dispatch n d).1.stores = (inst.setStore d.target
      ((⟨n, d, inst.ids⟩ : Dispatch).edit inst.graph (inst.storeOf d.target))).stores := by
  rcases d with ⟨t, m⟩ | ⟨t, rid, q, r⟩ <;> simp only [Delivery.target] at hx <;>
    simp only [dispatch, Dispatch.edit, Delivery.target, hx] <;> split <;> rfl

theorem dispatch_of_executor?_none {inst : Instance} (n : Nat) (d : Delivery)
    (hx : inst.graph.executor? d.target = none) : (inst.dispatch n d).1 = inst := by
  rcases d with ⟨t, m⟩ | ⟨t, rid, q, r⟩ <;> simp only [Delivery.target] at hx <;>
    simp [dispatch, Delivery.target, hx]

/-- **A call writes only its executor's store**, and leaves there the edit of its handler. -/
theorem storeOf_dispatch {inst : Instance} (hk : inst.Keyed) (n : Nat) (d : Delivery)
    (y : String) :
    (inst.dispatch n d).1.storeOf y =
      if d.target = y then (⟨n, d, inst.ids⟩ : Dispatch).edit inst.graph (inst.storeOf y)
      else inst.storeOf y := by
  cases hx : inst.graph.executor? d.target with
  | none =>
    rw [dispatch_of_executor?_none n d hx]
    by_cases hy : d.target = y
    · subst hy
      simp [Dispatch.edit, hx]
    · simp [hy]
  | some e =>
    have hkey : d.target ∈ inst.stores.map Prod.fst := by
      have hid : e.id = d.target := by simpa using List.find?_some hx
      exact hid ▸ hk e (List.mem_of_find?_eq_some hx)
    rw [storeOf_congr (dispatch_stores n d hx), storeOf_setStore inst hkey]
    by_cases hy : d.target = y
    · subst hy
      simp
    · simp [hy, Ne.symm hy]

theorem dispatch_keys (inst : Instance) (n : Nat) (d : Delivery) :
    (inst.dispatch n d).1.stores.map Prod.fst = inst.stores.map Prod.fst := by
  cases hx : inst.graph.executor? d.target with
  | none => rw [dispatch_of_executor?_none n d hx]
  | some e => rw [dispatch_stores n d hx, setStore_keys]

/-- What keeps the graph and the stores' keys keeps every executor's store. -/
theorem Keyed.of_keys {inst inst' : Instance} (hk : inst.Keyed) (hg : inst'.graph = inst.graph)
    (hkeys : inst'.stores.map Prod.fst = inst.stores.map Prod.fst) : inst'.Keyed := by
  intro e he
  rw [hkeys]
  exact hk e (hg ▸ he)

/-! ## A superstep -/

/-- The calls that deliveries make in superstep `n`, from the superstep state `s`: each delivery in
queue order, with the id counter its call starts from. -/
def Step.dispatches (n : Nat) : Step → List Delivery → List Dispatch
  | _, [] => []
  | s, d :: ds => ⟨n, d, s.inst.ids⟩ :: dispatches n (deliver n s d) ds

theorem deliver_stores (n : Nat) (s : Step) (d : Delivery) :
    (deliver n s d).inst.stores = (s.inst.dispatch n d).1.stores := by
  simp [deliver, publish_fst]

theorem foldl_deliver_keys (n : Nat) (ds : List Delivery) (s : Step) :
    (ds.foldl (deliver n) s).inst.stores.map Prod.fst = s.inst.stores.map Prod.fst := by
  induction ds generalizing s with
  | nil => rfl
  | cons d ds ih => rw [List.foldl_cons, ih, deliver_stores, dispatch_keys]

/-- The handlers of a superstep leave each store as the calls to its executor edit it, in queue
order. -/
theorem storeOf_foldl_deliver (n : Nat) (ds : List Delivery) (s : Step) (hk : s.inst.Keyed)
    (y : String) :
    (ds.foldl (deliver n) s).inst.storeOf y =
      ((Step.dispatches n s ds).map .call).foldl (StoreEntry.replayOne s.inst.graph y)
        (s.inst.storeOf y) := by
  induction ds generalizing s with
  | nil => rfl
  | cons d ds ih =>
    have hk' : (deliver n s d).inst.Keyed :=
      hk.of_keys (deliver_graph n s d) (by rw [deliver_stores, dispatch_keys])
    have hfirst : (deliver n s d).inst.storeOf y =
        StoreEntry.replayOne s.inst.graph y (s.inst.storeOf y) (.call ⟨n, d, s.inst.ids⟩) := by
      rw [storeOf_congr (deliver_stores n s d), storeOf_dispatch hk]
      rfl
    rw [List.foldl_cons, ih _ hk', Step.dispatches, List.map_cons, List.foldl_cons, hfirst,
      deliver_graph]

end Instance

/-! ## A step of a run -/

namespace Task

/-- The calls the next step of a run makes: those of the superstep it starts, if any. -/
def dispatches (inst : Instance) (t : Task) : List Dispatch :=
  match t.phase with
  | .ready next =>
    if inst.graph.maxSupersteps ≤ t.supersteps then []
    else Instance.Step.dispatches (t.supersteps + 1)
      ⟨inst, [⟨t.clock, .superstepStarted (t.supersteps + 1)⟩], t.clock, [], none⟩ next
  | _ => []

variable {inst inst' : Instance} {t t' : Task} {es : List Stamped}

/-- A step changes no store but by the calls of the superstep it starts. -/
theorem Stepped.storeOf (e : Stepped inst t inst' t' es) (hk : inst.Keyed) (y : String) :
    inst'.storeOf y =
      ((t.dispatches inst).map .call).foldl (StoreEntry.replayOne inst.graph y) (inst.storeOf y) := by
  cases e with
  | ended s hp => simp [dispatches, hp]
  | limit next hp hl => simp [dispatches, hp, hl, Instance.failRun, Instance.storeOf]
  | superstep next hp hl =>
    simp only [dispatches, hp, Nat.not_le.2 hl, ↓reduceIte, Instance.superstep]
    exact Instance.storeOf_foldl_deliver _ next _ hk y
  | failure next details endsAt hp => simp [dispatches, hp, Instance.failRun, Instance.storeOf]
  | converge next endsAt s hp hs => simp [dispatches, hp, Instance.storeOf]
  | next next endsAt ds hp hds => simp [dispatches, hp, Instance.storeOf]

theorem Stepped.keys (e : Stepped inst t inst' t' es) :
    inst'.stores.map Prod.fst = inst.stores.map Prod.fst := by
  cases e with
  | superstep next hp hl => exact Instance.foldl_deliver_keys _ next _
  | _ => rfl

/-- A step that makes no call changes no store. -/
theorem Stepped.stores (e : Stepped inst t inst' t' es) (h : t.dispatches inst = []) :
    inst'.stores = inst.stores := by
  cases e with
  | superstep next hp hl =>
    have hnil : next = [] := by
      cases next with
      | nil => rfl
      | cons d ds => simp [dispatches, hp, Nat.not_le.2 hl, Instance.Step.dispatches] at h
    subst hnil
    rfl
  | _ => rfl

theorem Stepped.graph' (e : Stepped inst t inst' t' es) : inst'.graph = inst.graph := by
  cases e with
  | superstep next hp hl => exact Instance.foldl_deliver_graph _ next _
  | _ => rfl

end Task

/-! ## Along a history -/

namespace World

/-- What an action does to the stores: the calls of the superstep that a step starts, or a
reset that goes through. -/
def storeLog (w : World) : Action → List StoreEntry
  | .reset => if w.inst.runState = .running then [] else [.cleared]
  | .step i =>
    match w.runs[i]? with
    | some t => (t.dispatches w.inst).map .call
    | none => []
  | _ => []

variable {w : World}

/-- Starting a run, giving responses and dropping a runner change only the machine and the id
counter of the instance. -/
theorem apply_inst_of_not_step {a : Action} (hs : ∀ i, a ≠ .step i) (hr : a ≠ .reset) :
    ∃ (machine : Machine) (ids : Nat), (w.apply a).1.inst = { w.inst with machine, ids } := by
  cases a with
  | begin req time =>
    cases hb : w.inst.begin req with
    | error e =>
      have hs' : Background.start w.inst req time = .error e :=
        Background.start_eq_error_iff.2 hb
      exact ⟨w.inst.machine, w.inst.ids, by simp [apply, hs']⟩
    | ok r =>
      obtain ⟨inst', ds⟩ := r
      obtain ⟨-, machine, rfl, -⟩ := Instance.begin_eq_ok hb
      exact ⟨machine, w.inst.ids + 1, by
        simp [apply, Background.start, hb, bind, Except.bind, pure, Except.pure, Task.start]⟩
  | respond rs time =>
    cases hm : w.inst.machine.respond rs with
    | error e => exact ⟨w.inst.machine, w.inst.ids, by
        simp [apply, Background.respond, hm, bind, Except.bind]⟩
    | ok r =>
      obtain ⟨machine, o⟩ := r
      cases o with
      | absorbed => exact ⟨machine, w.inst.ids, by
          simp [apply, Background.respond, hm, bind, Except.bind, pure, Except.pure]⟩
      | restart ds => exact ⟨machine, w.inst.ids + 1, by
          simp [apply, Background.respond, hm, bind, Except.bind, pure, Except.pure, Task.start]⟩
  | reset => exact absurd rfl hr
  | step i => exact absurd rfl (hs i)
  | drop i =>
    cases ht : w.runs[i]? with
    | none => exact ⟨w.inst.machine, w.inst.ids, by simp [apply, ht]⟩
    | some t =>
      exact ⟨(Task.drop w.inst t).machine, w.inst.ids, by
        simp only [apply, ht, Task.drop]
        split <;> rfl⟩

/-- A step of the run at position `i`, by what the step does. -/
theorem apply_step_cases (i : Nat) :
    (w.runs[i]? = none ∧ w.apply (.step i) = (w, [])) ∨
      ∃ t, w.runs[i]? = some t ∧ Task.Stepped w.inst t (w.apply (.step i)).1.inst
        (Task.step w.inst t).2.1 (Task.step w.inst t).2.2 := by
  cases ht : w.runs[i]? with
  | none => exact .inl ⟨rfl, by simp [apply, ht]⟩
  | some t => exact .inr ⟨t, rfl, by simpa [apply, ht] using Task.stepped w.inst t⟩

/-- No action changes the graph or which executors have a store. -/
theorem apply_graph_keys (a : Action) : (w.apply a).1.inst.graph = w.inst.graph ∧
    (w.apply a).1.inst.stores.map Prod.fst = w.inst.stores.map Prod.fst := by
  by_cases hr : a = .reset
  · subst hr
    by_cases hrun : w.inst.runState = .running
    · simp [apply_reset_of_running hrun]
    · simp [apply, Instance.reset_of_not_running hrun]
  by_cases hs : ∃ i, a = .step i
  · obtain ⟨i, rfl⟩ := hs
    rcases apply_step_cases (w := w) i with ⟨-, h⟩ | ⟨t, -, e⟩
    · simp [h]
    · exact ⟨e.graph', e.keys⟩
  · obtain ⟨machine, ids, h⟩ := apply_inst_of_not_step (w := w) (fun i hi => hs ⟨i, hi⟩) hr
    simp [h]

theorem keyed_apply (hk : w.inst.Keyed) (a : Action) : (w.apply a).1.inst.Keyed :=
  hk.of_keys (apply_graph_keys a).1 (apply_graph_keys a).2

/-- **No action but a reset and the handlers of a superstep changes a store**: starting a run,
giving responses, ending a superstep, failing or abandoning a run, and every refused call leave
every store as it was. -/
theorem apply_stores_of_storeLog_nil {a : Action} (h : w.storeLog a = []) :
    (w.apply a).1.inst.stores = w.inst.stores := by
  by_cases hr : a = .reset
  · subst hr
    by_cases hrun : w.inst.runState = .running
    · simp [apply_reset_of_running hrun]
    · simp [storeLog, hrun] at h
  by_cases hs : ∃ i, a = .step i
  · obtain ⟨i, rfl⟩ := hs
    rcases apply_step_cases (w := w) i with ⟨-, happ⟩ | ⟨t, ht, e⟩
    · simp [happ]
    · exact e.stores (by simpa [storeLog, ht] using h)
  · obtain ⟨machine, ids, happ⟩ := apply_inst_of_not_step (w := w) (fun i hi => hs ⟨i, hi⟩) hr
    simp [happ]

/-- One action replays its log on every store. -/
theorem storeOf_apply (hk : w.inst.Keyed) (a : Action) (y : String) :
    (w.apply a).1.inst.storeOf y =
      (w.storeLog a).foldl (StoreEntry.replayOne w.inst.graph y) (w.inst.storeOf y) := by
  by_cases hr : a = .reset
  · subst hr
    by_cases hrun : w.inst.runState = .running
    · simp [apply_reset_of_running hrun, storeLog, hrun]
    · simp [apply, Instance.reset_of_not_running hrun, storeLog, hrun, StoreEntry.replayOne,
        Instance.storeOf_cleared]
  by_cases hs : ∃ i, a = .step i
  · obtain ⟨i, rfl⟩ := hs
    rcases apply_step_cases (w := w) i with ⟨ht, happ⟩ | ⟨t, ht, e⟩
    · simp [happ, storeLog, ht]
    · simpa [storeLog, ht] using e.storeOf hk y
  · have hnil : w.storeLog a = [] := by
      cases a <;> simp_all [storeLog]
    rw [hnil, Instance.storeOf_congr (apply_stores_of_storeLog_nil hnil)]
    rfl

/-- Along a history, every store is the replay of the history's log. -/
theorem storeOf_after (hk : w.inst.Keyed) (as : List Action) (y : String) :
    (w.after as).inst.storeOf y =
      (w.collect as storeLog).foldl (StoreEntry.replayOne w.inst.graph y) (w.inst.storeOf y) := by
  induction as generalizing w with
  | nil => rfl
  | cons a as ih =>
    rw [after, ih (keyed_apply hk a), collect_cons, List.foldl_append, ← storeOf_apply hk a,
      (apply_graph_keys a).1]

theorem keyed_init (g : Graph) : (init g).inst.Keyed := by
  intro e he
  simp only [init, Instance.new, List.map_map]
  exact List.mem_map.2 ⟨e, he, rfl⟩

/-- A fresh instance's stores are empty. -/
theorem storeOf_init (g : Graph) (x : String) : (init g).inst.storeOf x = [] := by
  refine Instance.storeOf_of_forall_nil (fun p hp => ?_) x
  obtain ⟨e, -, rfl⟩ := List.mem_map.1 hp
  rfl

end World

/-- **Executor state persists, and stays separate.** Along every history of a fresh instance of a
graph, whatever the interleaving of runs, responses, resets, steps and dropped runners, each
executor's store is what the calls to that executor since the last reset that went through made
of an empty store, one after the other in the order they were made (`Dispatch.edit`), whether
their runs converged, failed or were abandoned. No action other than the handlers of a superstep
and a reset changes any store: starting a run, giving responses, ending a superstep, failing or
abandoning a run, and a refused call leave them all as they were. A call reads no store but its
executor's: two instances that agree on it, the graph and the id counter make the same call. And
it writes no store but its executor's, which it leaves as its handler edits it. -/
theorem executor_state_persists (g : Graph) (as : List Action) (x : String) :
    ((World.init g).after as).inst.storeOf x =
      ((StoreEntry.sinceCleared ((World.init g).collect as World.storeLog)).filter
        (·.delivery.target = x)).foldl (fun store c => c.edit g store) [] ∧
    (∀ (w : World) (a : Action), w.storeLog a = [] → (w.apply a).1.inst.stores = w.inst.stores) ∧
    (∀ (inst inst' : Instance) (n : Nat) (d : Delivery), inst.graph = inst'.graph →
      inst.ids = inst'.ids → inst.storeOf d.target = inst'.storeOf d.target →
      (inst.dispatch n d).2 = (inst'.dispatch n d).2) ∧
    (∀ (inst : Instance) (n : Nat) (d : Delivery) (y : String), inst.Keyed →
      (inst.dispatch n d).1.storeOf y =
        if d.target = y then (⟨n, d, inst.ids⟩ : Dispatch).edit inst.graph (inst.storeOf y)
        else inst.storeOf y) := by
  refine ⟨?_, fun w a => World.apply_stores_of_storeLog_nil,
    fun inst inst' n d hg hids hs => Instance.dispatch_reads_own_store hg hids n d hs,
    fun inst n d y hk => Instance.storeOf_dispatch hk n d y⟩
  rw [World.storeOf_after (World.keyed_init g), World.storeOf_init]
  exact StoreEntry.foldl_replayOne g x _ []

end Superstep
