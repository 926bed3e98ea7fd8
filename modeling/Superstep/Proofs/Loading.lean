import Mathlib
import Superstep.Proofs.Validation
import Superstep.Engine.Loader

/-!
# Loading a workflow from its definition

Loading makes the executors of a definition in order, then builds the graph they form. The
first fault found is reported: scanning the executors, an id given before, then whatever the
registry refuses (`Registry.Refuses`: an unknown type, a configuration its factory rejects, an
executor returned under another id); then a start that is not among the executors; then, in the
order a build checks them, the limit, the edges and the reachability of every executor.
`Definition.Valid` and `Definition.Fails` say this of the definition alone.

The builder sees the start and then every made executor. Made executors have distinct ids, so
the start is registered twice as one executor and the build never finds a duplicate; a build's
plan (`Definition.loadPlan`) then says of its registrations what the definition says of its
executors.
-/

namespace Superstep

namespace Registry

/-- The registry makes an executor for a specification: its type is known and its factory
accepts the configuration and returns an executor under the id asked for. -/
def Accepts (reg : Registry) (s : ExecutorSpec) : Prop :=
  ∃ f e, reg.find? s.typeName = some f ∧ f.create s.id s.config = .ok e ∧ e.id = s.id

/-- Why the registry refuses to make an executor for a specification, in the order it checks. -/
inductive Refuses (reg : Registry) (s : ExecutorSpec) : WorkflowError → Prop
  | unknown : reg.find? s.typeName = none → Refuses reg s (.unknownExecutorType s.typeName)
  | rejected {f : Factory} {e : ExecutorError} : reg.find? s.typeName = some f →
      f.create s.id s.config = .error e →
      Refuses reg s (.invalid ("Failed to create executor '" ++ s.id ++ "': " ++ e.message))
  | renamed {f : Factory} {e : Executor} : reg.find? s.typeName = some f →
      f.create s.id s.config = .ok e → e.id ≠ s.id →
      Refuses reg s (.invalid ("Factory for '" ++ s.typeName ++ "' returned executor '" ++ e.id ++
        "' instead of '" ++ s.id ++ "'"))

variable {reg : Registry} {s : ExecutorSpec} {key : Nat}

theorem create_eq_ok {e : Executor} (h : reg.create s.typeName s.id s.config key = .ok e) :
    reg.Accepts s ∧ e.id = s.id := by
  unfold create at h
  split at h
  · cases h
  next f hf =>
    split at h
    · cases h
    next e₀ he₀ =>
      split at h
      · cases h
      next hid =>
        cases h
        have hid' : e₀.id = s.id := by simpa using hid
        exact ⟨⟨f, e₀, hf, he₀, hid'⟩, hid'⟩

theorem create_of_accepts (h : reg.Accepts s) (key : Nat) :
    ∃ e, reg.create s.typeName s.id s.config key = .ok e := by
  obtain ⟨f, e, hf, he, hid⟩ := h
  exact ⟨{ e with instanceKey := key }, by simp [create, hf, he, hid]⟩

theorem create_eq_error_iff {err : WorkflowError} :
    reg.create s.typeName s.id s.config key = .error err ↔ reg.Refuses s err := by
  constructor
  · intro h
    unfold create at h
    split at h
    next hf =>
      cases h
      exact .unknown hf
    next f hf =>
      split at h
      next e he =>
        cases h
        exact .rejected hf he
      next e he =>
        split at h
        next hid =>
          cases h
          exact .renamed hf he (by simpa using hid)
        · cases h
  · intro h
    cases h with
    | unknown hf => simp [create, hf]
    | rejected hf he => simp [create, hf, he]
    | renamed hf he hid => simp [create, hf, he, hid]

end Registry

namespace Definition

/-- The ids of the executors, in order. -/
def ids (d : Definition) : List String := d.executors.map (·.id)

/-- `b` can be reached from `a` along the edges. -/
def Reaches (d : Definition) (a b : String) : Prop :=
  Relation.ReflTransGen (fun x y => (x, y) ∈ d.edges) a b

/-- Specifications whose executors can all be made: distinct ids, each accepted. -/
def Makeable (reg : Registry) (specs : List ExecutorSpec) : Prop :=
  (specs.map (·.id)).Nodup ∧ ∀ s ∈ specs, reg.Accepts s

/-- A definition that loads. -/
structure Valid (d : Definition) (reg : Registry) : Prop where
  makeable : Makeable reg d.executors
  start_mem : d.start ∈ d.ids
  limit_pos : 0 < d.maxSupersteps
  endsKnown : ∀ e ∈ d.edges, e.1 ∈ d.ids ∧ e.2 ∈ d.ids
  reachable : ∀ s ∈ d.executors, d.Reaches d.start s.id

/-- The error loading reports: that of the first fault, in the order they are looked for. -/
inductive Fails (d : Definition) (reg : Registry) : FlowError → Prop
  | duplicate {pre post : List ExecutorSpec} {s : ExecutorSpec} :
      d.executors = pre ++ s :: post → Makeable reg pre → s.id ∈ pre.map (·.id) →
      Fails d reg (.workflow (.duplicateExecutor s.id))
  | refused {pre post : List ExecutorSpec} {s : ExecutorSpec} {err : WorkflowError} :
      d.executors = pre ++ s :: post → Makeable reg pre → s.id ∉ pre.map (·.id) →
      reg.Refuses s err → Fails d reg (.workflow err)
  | start : Makeable reg d.executors → d.start ∉ d.ids →
      Fails d reg (.workflow (.executorNotFound d.start))
  | limit : Makeable reg d.executors → d.start ∈ d.ids → d.maxSupersteps = 0 →
      Fails d reg (.workflow (.invalid "max_supersteps must be at least 1"))
  | endpoint {pre post : List (String × String)} {src dst : String} :
      Makeable reg d.executors → d.start ∈ d.ids → 0 < d.maxSupersteps →
      d.edges = pre ++ (src, dst) :: post → (∀ e ∈ pre, e.1 ∈ d.ids ∧ e.2 ∈ d.ids) →
      ¬(src ∈ d.ids ∧ dst ∈ d.ids) →
      Fails d reg (.workflow (.executorNotFound (if src ∈ d.ids then dst else src)))
  | unreachable {pre post : List ExecutorSpec} {s : ExecutorSpec} :
      Makeable reg d.executors → d.start ∈ d.ids → 0 < d.maxSupersteps →
      (∀ e ∈ d.edges, e.1 ∈ d.ids ∧ e.2 ∈ d.ids) → d.executors = pre ++ s :: post →
      (∀ y ∈ pre, d.Reaches d.start y.id) → ¬d.Reaches d.start s.id →
      Fails d reg (.workflow (.unreachable s.id))

/-- What loading keeps of a definition in the graph it builds. -/
structure Loaded (d : Definition) (g : Graph) : Prop where
  name_eq : g.name = d.name
  start_eq : g.start = d.start
  limit_eq : g.maxSupersteps = d.maxSupersteps
  ids_eq : g.nodes.map (·.id) = d.start :: d.ids.erase d.start
  successors_eq : ∀ s, g.successors s = ((d.edges.filter (·.1 == s)).map (·.2)).eraseDups
  edgeCount_eq : g.edgeCount = d.edges.eraseDups.length

/-! ## Making the executors -/

section Make

variable {reg : Registry}

theorem Makeable.append_singleton {done : List ExecutorSpec} {s : ExecutorSpec}
    (h : Makeable reg done) (hs : s.id ∉ done.map (·.id)) (ha : reg.Accepts s) :
    Makeable reg (done ++ [s]) := by
  refine ⟨?_, ?_⟩
  · rw [List.map_append, List.map_singleton]
    refine List.nodup_append.2 ⟨h.1, List.nodup_singleton _, ?_⟩
    intro a ha' b hb hab
    rw [List.mem_singleton.1 hb] at hab
    exact hs (hab ▸ ha')
  · intro x hx
    rcases List.mem_append.1 hx with hx | hx
    · exact h.2 x hx
    · rw [List.mem_singleton.1 hx]
      exact ha

theorem Makeable.of_append {l₁ l₂ : List ExecutorSpec} (h : Makeable reg (l₁ ++ l₂)) :
    Makeable reg l₁ := by
  refine ⟨?_, fun x hx => h.2 x (List.mem_append_left _ hx)⟩
  have hnd := h.1
  rw [List.map_append] at hnd
  exact (List.nodup_append.1 hnd).1

theorem any_id_iff {made : List Executor} {done : List ExecutorSpec}
    (hm : made.map (·.id) = (done.map (·.id)).reverse) (i : String) :
    made.any (·.id == i) = true ↔ i ∈ done.map (·.id) := by
  rw [← List.mem_reverse, ← hm]
  simp

/-- A fault stops making at the first specification: an id given before, or one the registry
refuses. -/
theorem makeExecutors_error {err : FlowError} {specs : List ExecutorSpec} :
    ∀ {key : Nat} {made : List Executor} {done : List ExecutorSpec},
      Makeable reg done → made.map (·.id) = (done.map (·.id)).reverse →
      makeExecutors reg key specs made = .error err →
      ∃ pre s post, specs = pre ++ s :: post ∧ Makeable reg (done ++ pre) ∧
        (s.id ∈ (done ++ pre).map (·.id) ∧ err = .workflow (.duplicateExecutor s.id) ∨
          s.id ∉ (done ++ pre).map (·.id) ∧ ∃ werr, reg.Refuses s werr ∧ err = .workflow werr) := by
  induction specs with
  | nil =>
    intro key made done _ _ h
    cases h
  | cons s rest ih =>
    intro key made done hdone hm h
    simp only [makeExecutors] at h
    split at h
    next hany =>
      cases h
      refine ⟨[], s, rest, rfl, by simpa using hdone, .inl ⟨?_, rfl⟩⟩
      simpa using (any_id_iff hm s.id).1 hany
    next hany =>
      have hnew : s.id ∉ done.map (·.id) := fun hmem => hany ((any_id_iff hm s.id).2 hmem)
      split at h
      next e he =>
        obtain ⟨ha, hid⟩ := Registry.create_eq_ok he
        have hm' : (e :: made).map (·.id) = ((done ++ [s]).map (·.id)).reverse := by
          simp [hm, hid]
        obtain ⟨pre, s', post, hsplit, hpre, hcase⟩ := ih (hdone.append_singleton hnew ha) hm' h
        refine ⟨s :: pre, s', post, by rw [hsplit]; rfl, ?_, ?_⟩
        · simpa using hpre
        · simpa using hcase
      next werr he =>
        cases h
        refine ⟨[], s, rest, rfl, by simpa using hdone, .inr ⟨by simpa using hnew, werr, ?_, rfl⟩⟩
        exact Registry.create_eq_error_iff.1 he

theorem makeExecutors_ok {result : List Executor} {specs : List ExecutorSpec} :
    ∀ {key : Nat} {made : List Executor} {done : List ExecutorSpec},
      Makeable reg done → made.map (·.id) = (done.map (·.id)).reverse →
      makeExecutors reg key specs made = .ok result →
      Makeable reg (done ++ specs) ∧ result.map (·.id) = (done ++ specs).map (·.id) := by
  induction specs with
  | nil =>
    intro key made done hdone hm h
    simp only [makeExecutors, Except.ok.injEq] at h
    subst h
    refine ⟨by simpa using hdone, ?_⟩
    rw [List.map_reverse, hm, List.reverse_reverse, List.append_nil]
  | cons s rest ih =>
    intro key made done hdone hm h
    simp only [makeExecutors] at h
    split at h
    · cases h
    next hany =>
      have hnew : s.id ∉ done.map (·.id) := fun hmem => hany ((any_id_iff hm s.id).2 hmem)
      split at h
      next e he =>
        obtain ⟨ha, hid⟩ := Registry.create_eq_ok he
        have hm' : (e :: made).map (·.id) = ((done ++ [s]).map (·.id)).reverse := by
          simp [hm, hid]
        simpa using ih (hdone.append_singleton hnew ha) hm' h
      · cases h

theorem makeExecutors_cons {q : ExecutorSpec} {rest : List ExecutorSpec} {key : Nat}
    {made : List Executor} {done : List ExecutorSpec} (hq : Makeable reg (done ++ [q]))
    (hm : made.map (·.id) = (done.map (·.id)).reverse) :
    ∃ e, makeExecutors reg key (q :: rest) made = makeExecutors reg (key + 1) rest (e :: made) ∧
      (e :: made).map (·.id) = ((done ++ [q]).map (·.id)).reverse := by
  have hnew : q.id ∉ done.map (·.id) := by
    have hnd := hq.1
    rw [List.map_append, List.map_singleton] at hnd
    intro hmem
    exact (List.nodup_append.1 hnd).2.2 _ hmem _ (List.mem_singleton_self _) rfl
  have hany : ¬made.any (·.id == q.id) = true := fun hany => hnew ((any_id_iff hm q.id).1 hany)
  obtain ⟨e, he⟩ := Registry.create_of_accepts (hq.2 q (by simp)) key
  have hid := (Registry.create_eq_ok he).2
  refine ⟨e, ?_, by simp [hm, hid]⟩
  simp [makeExecutors, hany, he]

theorem makeExecutors_of_fault {err : FlowError} {s : ExecutorSpec} {post : List ExecutorSpec}
    {pre : List ExecutorSpec} :
    ∀ {key : Nat} {made : List Executor} {done : List ExecutorSpec},
      Makeable reg (done ++ pre) → made.map (·.id) = (done.map (·.id)).reverse →
      (s.id ∈ (done ++ pre).map (·.id) ∧ err = .workflow (.duplicateExecutor s.id) ∨
        s.id ∉ (done ++ pre).map (·.id) ∧ ∃ werr, reg.Refuses s werr ∧ err = .workflow werr) →
      makeExecutors reg key (pre ++ s :: post) made = .error err := by
  induction pre with
  | nil =>
    intro key made done _ hm hcase
    rcases hcase with ⟨hdup, rfl⟩ | ⟨hnew, werr, hw, rfl⟩
    · have hany := (any_id_iff hm s.id).2 (by simpa using hdup)
      simp [makeExecutors, hany]
    · have hany : ¬made.any (·.id == s.id) = true := fun hany =>
        hnew (by simpa using (any_id_iff hm s.id).1 hany)
      have hcreate : reg.create s.typeName s.id s.config key = .error werr :=
        Registry.create_eq_error_iff.2 hw
      simp [makeExecutors, hany, hcreate]
  | cons q pre ih =>
    intro key made done hdone hm hcase
    rw [show done ++ q :: pre = (done ++ [q]) ++ pre by simp] at hdone hcase
    obtain ⟨e, hstep, hm'⟩ := makeExecutors_cons hdone.of_append hm
    rw [List.cons_append, hstep]
    exact ih hdone hm' hcase

theorem makeExecutors_of_makeable {specs : List ExecutorSpec} :
    ∀ {key : Nat} {made : List Executor} {done : List ExecutorSpec},
      Makeable reg (done ++ specs) → made.map (·.id) = (done.map (·.id)).reverse →
      ∃ result, makeExecutors reg key specs made = .ok result := by
  induction specs with
  | nil =>
    intro key made done _ _
    exact ⟨_, rfl⟩
  | cons q rest ih =>
    intro key made done hdone hm
    rw [show done ++ q :: rest = (done ++ [q]) ++ rest by simp] at hdone
    obtain ⟨e, hstep, hm'⟩ := makeExecutors_cons hdone.of_append hm
    rw [hstep]
    exact ih hdone hm'

end Make

/-! ## The build -/

/-- The calls loading makes on a builder: the name and the limit, every made executor, every
edge. -/
def loadCalls (d : Definition) (made : List Executor) : List Graph.Builder.Call :=
  [.withName d.name, .withConfig d.maxSupersteps] ++ made.map .addExecutor ++
    d.edges.map fun e => .connect e.1 e.2

section Build

variable {d : Definition} {reg : Registry}

theorem build_of_make_error {err : FlowError} (h : makeExecutors reg 0 d.executors [] = .error err) :
    d.build reg = .error err := by
  simp [build, h, bind, Except.bind]

theorem build_of_no_start {made : List Executor} (h : makeExecutors reg 0 d.executors [] = .ok made)
    (hs : made.find? (·.id == d.start) = none) :
    d.build reg = .error (.workflow (.executorNotFound d.start)) := by
  simp [build, h, hs, bind, Except.bind, throw, throwThe, MonadExceptOf.throw]

/-- With every executor made and the start found, loading returns what the builder's build
returns. -/
theorem build_of_graph {made : List Executor} {start : Executor} {g : Graph}
    (h : makeExecutors reg 0 d.executors [] = .ok made) (hs : made.find? (·.id == d.start) = some start)
    (hb : ((Graph.Builder.new start).calls (d.loadCalls made)).build = .ok g) :
    d.build reg = .ok (Instance.new g) := by
  simp [Graph.Builder.calls, loadCalls, List.foldl_append, List.foldl_map, Graph.Builder.call,
    Graph.Builder.withName, Graph.Builder.withConfig] at hb
  simp [build, h, hs, hb, bind, Except.bind, pure, Except.pure]

theorem build_of_graph_error {made : List Executor} {start : Executor} {err : WorkflowError}
    (h : makeExecutors reg 0 d.executors [] = .ok made) (hs : made.find? (·.id == d.start) = some start)
    (hb : ((Graph.Builder.new start).calls (d.loadCalls made)).build = .error err) :
    d.build reg = .error (.workflow err) := by
  simp [Graph.Builder.calls, loadCalls, List.foldl_append, List.foldl_map, Graph.Builder.call,
    Graph.Builder.withName, Graph.Builder.withConfig] at hb
  simp [build, h, hs, hb, bind, Except.bind, pure, Except.pure, throw, throwThe,
    MonadExceptOf.throw]

end Build

/-! ## The plan of the builder -/

/-- The plan of the builder loading makes, `start` being the made executor under the start's
id. -/
def loadPlan (d : Definition) (made : List Executor) (start : Executor) : Graph.Builder.Plan :=
  ⟨start :: made, d.start, d.maxSupersteps, d.edges⟩

theorem eraseDups_of_nodup : (l : List String) → l.Nodup → l.eraseDups = l
  | [], _ => rfl
  | a :: l, h => by
    rw [List.eraseDups_cons, List.nodup_cons] at *
    have hfilter : (l.filter fun b => !b == a) = l := by
      apply List.filter_eq_self.2
      intro b hb
      have hba : b ≠ a := fun hba => h.1 (hba ▸ hb)
      simp [hba]
    rw [hfilter, eraseDups_of_nodup l h.2]
termination_by l => l.length

/-- The first entry of a list whose id fails a test, told by the list of ids alone. -/
theorem exists_split_iff_ids {α : Type} (ident : α → String) (Q : String → Prop) (L : List α)
    (i : String) :
    (∃ pre x post, L = pre ++ x :: post ∧ (∀ y ∈ pre, Q (ident y)) ∧ ¬Q (ident x) ∧ ident x = i) ↔
      ∃ pre post, L.map ident = pre ++ i :: post ∧ (∀ j ∈ pre, Q j) ∧ ¬Q i := by
  constructor
  · intro h
    obtain ⟨pre, x, post, rfl, hpre, hx, rfl⟩ := h
    refine ⟨pre.map ident, post.map ident, by simp, ?_, hx⟩
    intro j hj
    obtain ⟨y, hy, rfl⟩ := List.mem_map.1 hj
    exact hpre y hy
  · intro h
    obtain ⟨pre, post, hsplit, hpre, hi⟩ := h
    obtain ⟨l₁, l₂, rfl, h₁, h₂⟩ := List.map_eq_append_iff.1 hsplit
    obtain ⟨x, l₃, rfl, hx, -⟩ := List.map_eq_cons_iff.1 h₂
    refine ⟨l₁, x, l₃, rfl, ?_, hx ▸ hi, hx⟩
    intro y hy
    apply hpre
    rw [← h₁]
    exact List.mem_map_of_mem hy

theorem exists_split_cons_iff (Q : String → Prop) {a : String} (ha : Q a) (l : List String)
    (i : String) :
    (∃ pre post, a :: l = pre ++ i :: post ∧ (∀ j ∈ pre, Q j) ∧ ¬Q i) ↔
      ∃ pre post, l = pre ++ i :: post ∧ (∀ j ∈ pre, Q j) ∧ ¬Q i := by
  constructor
  · intro h
    obtain ⟨pre, post, hsplit, hpre, hi⟩ := h
    rcases List.cons_eq_append_iff.1 hsplit with ⟨-, hpost⟩ | ⟨pre', rfl, hl⟩
    · obtain ⟨rfl, -⟩ := List.cons.inj hpost
      exact absurd ha hi
    · exact ⟨pre', post, hl, fun j hj => hpre j (List.mem_cons_of_mem a hj), hi⟩
  · intro h
    obtain ⟨pre, post, hsplit, hpre, hi⟩ := h
    refine ⟨a :: pre, post, by rw [hsplit]; rfl, ?_, hi⟩
    intro j hj
    rcases List.mem_cons.1 hj with rfl | hj
    · exact ha
    · exact hpre j hj

section Plan

variable {d : Definition} {reg : Registry} {made : List Executor} {start : Executor}

theorem addExecutor_calls (l : List Executor) :
    (l.map .addExecutor).flatMap Graph.Builder.Call.registers = l ∧
      (l.map .addExecutor).flatMap Graph.Builder.Call.edges = [] ∧
      (l.map .addExecutor).filterMap Graph.Builder.Call.limit? = [] ∧
      (l.map .addExecutor).filterMap Graph.Builder.Call.name? = [] := by
  induction l with
  | nil => exact ⟨rfl, rfl, rfl, rfl⟩
  | cons e l ih =>
    obtain ⟨h1, h2, h3, h4⟩ := ih
    exact ⟨by simp [Graph.Builder.Call.registers, h1], by simp [Graph.Builder.Call.edges, h2], h3, h4⟩

theorem connect_calls (l : List (String × String)) :
    (l.map fun e => Graph.Builder.Call.connect e.1 e.2).flatMap Graph.Builder.Call.registers = [] ∧
      (l.map fun e => Graph.Builder.Call.connect e.1 e.2).flatMap Graph.Builder.Call.edges = l ∧
      (l.map fun e => Graph.Builder.Call.connect e.1 e.2).filterMap Graph.Builder.Call.limit? = [] ∧
      (l.map fun e => Graph.Builder.Call.connect e.1 e.2).filterMap Graph.Builder.Call.name? = [] := by
  induction l with
  | nil => exact ⟨rfl, rfl, rfl, rfl⟩
  | cons e l ih =>
    obtain ⟨h1, h2, h3, h4⟩ := ih
    exact ⟨by simp [Graph.Builder.Call.registers, h1], by simp [Graph.Builder.Call.edges, h2], h3, h4⟩

/-- The calls loading makes declare the start and the made executors, the definition's limit
and its edges. -/
theorem ofCalls_loadCalls (start : Executor) (made : List Executor) :
    Graph.Builder.Plan.ofCalls start (d.loadCalls made) =
      ⟨start :: made, start.id, d.maxSupersteps, d.edges⟩ := by
  obtain ⟨r1, e1, l1, -⟩ := addExecutor_calls made
  obtain ⟨r2, e2, l2, -⟩ := connect_calls d.edges
  have hregs : Graph.Builder.registrations start (d.loadCalls made) = start :: made := by
    simp [Graph.Builder.registrations, loadCalls, List.flatMap_append, r1, r2,
      Graph.Builder.Call.registers]
  have hlimit : Graph.Builder.limitOf (d.loadCalls made) = d.maxSupersteps := by
    rw [Graph.Builder.limitOf, loadCalls, List.filterMap_append, List.filterMap_append, l1, l2]
    rfl
  have hedges : Graph.Builder.edgesOf (d.loadCalls made) = d.edges := by
    simp [Graph.Builder.edgesOf, loadCalls, List.flatMap_append, e1, e2, Graph.Builder.Call.edges]
  rw [Graph.Builder.Plan.ofCalls, hregs, hlimit, hedges]

theorem nameOf_loadCalls (made : List Executor) : Graph.Builder.nameOf (d.loadCalls made) = d.name := by
  obtain ⟨-, -, -, n1⟩ := addExecutor_calls made
  obtain ⟨-, -, -, n2⟩ := connect_calls d.edges
  rw [Graph.Builder.nameOf, loadCalls, List.filterMap_append, List.filterMap_append, n1, n2]
  rfl

theorem describes_load (hsid : start.id = d.start) :
    (d.loadPlan made start).Describes ((Graph.Builder.new start).calls (d.loadCalls made)) := by
  have h := Graph.Builder.describes_calls start (d.loadCalls made)
  rw [ofCalls_loadCalls, hsid] at h
  exact h

variable (hids : made.map (·.id) = d.ids) (hstart : start ∈ made) (hsid : start.id = d.start)
include hids hstart hsid

theorem start_mem_ids : d.start ∈ d.ids := by
  rw [← hids, ← hsid]
  exact List.mem_map_of_mem hstart

theorem mem_loadPlan_ids {i : String} : i ∈ (d.loadPlan made start).ids ↔ i ∈ d.ids := by
  simp only [Graph.Builder.Plan.ids, loadPlan, List.map_cons, hids, hsid, List.mem_cons]
  constructor
  · rintro (rfl | hi)
    · exact start_mem_ids hids hstart hsid
    · exact hi
  · exact Or.inr

theorem loadPlan_endsKnown_iff :
    (d.loadPlan made start).EndsKnown ↔ ∀ e ∈ d.edges, e.1 ∈ d.ids ∧ e.2 ∈ d.ids := by
  simp only [Graph.Builder.Plan.EndsKnown, mem_loadPlan_ids hids hstart hsid]
  rfl

theorem loadPlan_noClash (hnd : d.ids.Nodup) :
    Graph.Builder.NoClash (d.loadPlan made start).registrations := by
  rw [← hids] at hnd
  have hmade : ∀ x ∈ (d.loadPlan made start).registrations, x ∈ made := by
    intro x hx
    rcases List.mem_cons.1 hx with rfl | hx
    · exact hstart
    · exact hx
  intro a ha b hb hab
  rw [List.inj_on_of_nodup_map hnd (hmade a ha) (hmade b hb) hab]
  exact Executor.sameInstance_self b

omit hstart in
/-- The first registration of the plan not reached is the first executor of the definition not
reached. -/
theorem loadPlan_unreachable_iff (i : String) :
    (∃ pre x post, (d.loadPlan made start).registrations = pre ++ x :: post ∧
        (∀ y ∈ pre, d.Reaches d.start y.id) ∧ ¬d.Reaches d.start x.id ∧ x.id = i) ↔
      ∃ pre s post, d.executors = pre ++ s :: post ∧ (∀ y ∈ pre, d.Reaches d.start y.id) ∧
        ¬d.Reaches d.start s.id ∧ s.id = i := by
  have hregs : (d.loadPlan made start).registrations.map (·.id) = d.start :: d.ids := by
    simp [loadPlan, hids, hsid]
  have key1 := exists_split_iff_ids (fun x : Executor => x.id) (d.Reaches d.start)
    (d.loadPlan made start).registrations i
  have key2 := exists_split_iff_ids (fun x : ExecutorSpec => x.id) (d.Reaches d.start) d.executors i
  beta_reduce at key1 key2
  rw [key1, key2, hregs]
  exact exists_split_cons_iff _ Relation.ReflTransGen.refl _ i

theorem valid_of_wellFormed (hmake : Makeable reg d.executors)
    (hw : (d.loadPlan made start).WellFormed) : d.Valid reg where
  makeable := hmake
  start_mem := start_mem_ids hids hstart hsid
  limit_pos := hw.limit_pos
  endsKnown := (loadPlan_endsKnown_iff hids hstart hsid).1 hw.endsKnown
  reachable s hs := by
    have hmem : s.id ∈ made.map (·.id) := by
      rw [hids]
      exact List.mem_map_of_mem hs
    obtain ⟨x, hx, hxs⟩ := List.mem_map.1 hmem
    rw [← hxs]
    exact hw.reachable x (List.mem_cons_of_mem start hx)

theorem wellFormed_of_valid (hv : d.Valid reg) : (d.loadPlan made start).WellFormed where
  distinct := loadPlan_noClash hids hstart hsid hv.makeable.1
  limit_pos := hv.limit_pos
  endsKnown := (loadPlan_endsKnown_iff hids hstart hsid).2 hv.endsKnown
  reachable x hx := by
    have hmem : x.id ∈ d.ids := (mem_loadPlan_ids hids hstart hsid).1 (List.mem_map_of_mem hx)
    obtain ⟨s, hs, hsx⟩ := List.mem_map.1 hmem
    rw [← hsx]
    exact hv.reachable s hs

theorem fails_of_rejects (hmake : Makeable reg d.executors) {err : WorkflowError}
    (hr : (d.loadPlan made start).Rejects err) : d.Fails reg (.workflow err) := by
  have hsm := start_mem_ids hids hstart hsid
  have hmem : ∀ i, i ∈ (d.loadPlan made start).ids ↔ i ∈ d.ids := fun i =>
    mem_loadPlan_ids hids hstart hsid
  cases hr with
  | duplicate hx =>
    have hnil := Graph.Builder.clashing_eq_nil_iff.2 (loadPlan_noClash hids hstart hsid hmake.1)
    rw [hnil] at hx
    cases hx
  | limit _ hl => exact .limit hmake hsm hl
  | @endpoint pre post src dst _ hl hsplit hpre hbad =>
    rw [Graph.Builder.if_mem_congr hmem src dst src]
    refine .endpoint hmake hsm hl hsplit ?_ ?_
    · intro e he
      rw [← hmem, ← hmem]
      exact hpre e he
    · rw [← hmem, ← hmem]
      exact hbad
  | @unreachable pre post x _ hl hends hsplit hpre hx =>
    obtain ⟨pre', s, post', hsplit', hpre', hs, hsx⟩ :=
      (loadPlan_unreachable_iff hids hsid x.id).1 ⟨pre, x, post, hsplit, hpre, hx, rfl⟩
    rw [← hsx]
    exact .unreachable hmake hsm hl ((loadPlan_endsKnown_iff hids hstart hsid).1 hends) hsplit' hpre' hs

omit hstart in
theorem loaded_of_build (hnd : d.ids.Nodup) {g : Graph}
    (hb : ((Graph.Builder.new start).calls (d.loadCalls made)).build = .ok g) : d.Loaded g := by
  obtain ⟨hname, hstart', hlimit, hnodes, -, hsucc, hcount⟩ := (describes_load hsid).graph_of_build hb
  refine ⟨?_, hstart', hlimit, ?_, hsucc, hcount⟩
  · rw [hname, (Graph.Builder.new_calls start (d.loadCalls made)).2.1, nameOf_loadCalls]
  · have hfilter : (d.ids.filter fun b => !b == d.start) = d.ids.erase d.start := by
      rw [hnd.erase_eq_filter]
      rfl
    rw [hnodes]
    simp only [Graph.Builder.Plan.ids, loadPlan, List.map_cons, hids, hsid]
    rw [List.eraseDups_cons, hfilter, eraseDups_of_nodup _ (hnd.erase d.start)]

end Plan

/-! ## Loading -/

section Load

variable {d : Definition} {reg : Registry}

theorem Makeable.nil : Makeable reg [] := ⟨List.nodup_nil, fun _ h => absurd h List.not_mem_nil⟩

theorem make_ok {made : List Executor} (hmk : makeExecutors reg 0 d.executors [] = .ok made) :
    Makeable reg d.executors ∧ made.map (·.id) = d.ids := by
  simpa [ids] using @makeExecutors_ok reg made d.executors 0 [] [] Makeable.nil rfl hmk

theorem make_of_makeable (hmake : Makeable reg d.executors) :
    ∃ made, makeExecutors reg 0 d.executors [] = .ok made :=
  @makeExecutors_of_makeable reg d.executors 0 [] [] (by simpa using hmake) rfl

theorem build_of_unmade {err : FlowError} {pre post : List ExecutorSpec} {s : ExecutorSpec}
    (hsplit : d.executors = pre ++ s :: post) (hpre : Makeable reg pre)
    (hcase : s.id ∈ pre.map (·.id) ∧ err = .workflow (.duplicateExecutor s.id) ∨
      s.id ∉ pre.map (·.id) ∧ ∃ werr, reg.Refuses s werr ∧ err = .workflow werr) :
    d.build reg = .error err := by
  apply build_of_make_error
  rw [hsplit]
  exact @makeExecutors_of_fault reg _ s post pre 0 [] [] (by simpa using hpre) rfl
    (by simpa using hcase)

theorem find?_start_isSome_iff {made : List Executor} (hids : made.map (·.id) = d.ids) :
    (made.find? (·.id == d.start)).isSome ↔ d.start ∈ d.ids := by
  rw [List.find?_isSome, ← hids, List.mem_map]
  simp

/-- Whatever loading returns is what the definition calls for: a workflow only for a valid
definition, built on a graph that keeps it, and otherwise the error of the first fault. -/
theorem load_sound :
    (∃ g, d.build reg = .ok (Instance.new g) ∧ d.Valid reg ∧ d.Loaded g) ∨
      ∃ err, d.build reg = .error err ∧ d.Fails reg err := by
  cases hmk : makeExecutors reg 0 d.executors [] with
  | error err =>
    refine .inr ⟨err, build_of_make_error hmk, ?_⟩
    obtain ⟨pre, s, post, hsplit, hpre, hcase⟩ :=
      @makeExecutors_error reg err d.executors 0 [] [] Makeable.nil rfl hmk
    rw [List.nil_append] at hpre hcase
    rcases hcase with ⟨hdup, rfl⟩ | ⟨hnew, werr, hw, rfl⟩
    · exact .duplicate hsplit hpre hdup
    · exact .refused hsplit hpre hnew hw
  | ok made =>
    obtain ⟨hmake, hids⟩ := make_ok hmk
    cases hs : made.find? (·.id == d.start) with
    | none =>
      have hns : d.start ∉ d.ids := by
        rw [← find?_start_isSome_iff hids, hs]
        simp
      exact .inr ⟨_, build_of_no_start hmk hs, .start hmake hns⟩
    | some start =>
      have hsid : start.id = d.start := by simpa using List.find?_some hs
      have hstart : start ∈ made := List.mem_of_find?_eq_some hs
      rcases (describes_load hsid).build_sound with ⟨edges, -, hb, hw⟩ | ⟨err, hb, hr⟩
      · exact .inl ⟨_, build_of_graph hmk hs hb, valid_of_wellFormed hids hstart hsid hmake hw,
          loaded_of_build hids hsid hmake.1 hb⟩
      · exact .inr ⟨_, build_of_graph_error hmk hs hb, fails_of_rejects hids hstart hsid hmake hr⟩

theorem made_start {made : List Executor} (hmk : makeExecutors reg 0 d.executors [] = .ok made)
    (hsm : d.start ∈ d.ids) :
    ∃ start, made.find? (·.id == d.start) = some start ∧ made.map (·.id) = d.ids ∧ start ∈ made ∧
      start.id = d.start := by
  obtain ⟨-, hids⟩ := make_ok hmk
  obtain ⟨start, hs⟩ := Option.isSome_iff_exists.1 ((find?_start_isSome_iff hids).2 hsm)
  exact ⟨start, hs, hids, List.mem_of_find?_eq_some hs, by simpa using List.find?_some hs⟩

/-- After every executor is made and the start found, loading fails with whatever the build
of the plan is rejected with. -/
theorem build_of_plan_rejects {err : WorkflowError} (hmake : Makeable reg d.executors)
    (hsm : d.start ∈ d.ids)
    (hr : ∀ made start, made.map (·.id) = d.ids → start ∈ made → start.id = d.start →
      (d.loadPlan made start).Rejects err) :
    d.build reg = .error (.workflow err) := by
  obtain ⟨made, hmk⟩ := make_of_makeable hmake
  obtain ⟨start, hs, hids, hstart, hsid⟩ := made_start hmk hsm
  exact build_of_graph_error hmk hs
    ((describes_load hsid).build_of_rejects (hr made start hids hstart hsid))

theorem build_of_fails {err : FlowError} (hf : d.Fails reg err) : d.build reg = .error err := by
  cases hf with
  | duplicate hsplit hpre hdup => exact build_of_unmade hsplit hpre (.inl ⟨hdup, rfl⟩)
  | @refused pre post s werr hsplit hpre hnew hw =>
    exact build_of_unmade hsplit hpre (.inr ⟨hnew, werr, hw, rfl⟩)
  | start hmake hns =>
    obtain ⟨made, hmk⟩ := make_of_makeable hmake
    apply build_of_no_start hmk
    rw [← Option.not_isSome_iff_eq_none, find?_start_isSome_iff (make_ok hmk).2]
    exact hns
  | limit hmake hsm hl =>
    apply build_of_plan_rejects hmake hsm
    intro made start hids hstart hsid
    exact .limit (loadPlan_noClash hids hstart hsid hmake.1) hl
  | @endpoint pre post src dst hmake hsm hl hsplit hpre hbad =>
    apply build_of_plan_rejects hmake hsm
    intro made start hids hstart hsid
    have hmem : ∀ i, i ∈ (d.loadPlan made start).ids ↔ i ∈ d.ids := fun i =>
      mem_loadPlan_ids hids hstart hsid
    rw [Graph.Builder.if_mem_congr (fun i => (hmem i).symm) src dst src]
    refine .endpoint (loadPlan_noClash hids hstart hsid hmake.1) hl hsplit ?_ ?_
    · intro e he
      rw [hmem, hmem]
      exact hpre e he
    · rw [hmem, hmem]
      exact hbad
  | @unreachable pre post s hmake hsm hl hends hsplit hpre hs =>
    apply build_of_plan_rejects hmake hsm
    intro made start hids hstart hsid
    obtain ⟨pre', x, post', hsplit', hpre', hx, hxs⟩ :=
      (loadPlan_unreachable_iff hids hsid s.id).2 ⟨pre, s, post, hsplit, hpre, hs, rfl⟩
    rw [← hxs]
    exact .unreachable (loadPlan_noClash hids hstart hsid hmake.1) hl
      ((loadPlan_endsKnown_iff hids hstart hsid).2 hends) hsplit' hpre' hx

theorem build_of_valid (hv : d.Valid reg) : ∃ inst, d.build reg = .ok inst := by
  obtain ⟨made, hmk⟩ := make_of_makeable hv.makeable
  obtain ⟨start, hs, hids, hstart, hsid⟩ := made_start hmk hv.start_mem
  obtain ⟨g, hb⟩ := (describes_load hsid).build_of_wellFormed (wellFormed_of_valid hids hstart hsid hv)
  exact ⟨_, build_of_graph hmk hs hb⟩

end Load

/-- Loading a definition with a registry succeeds exactly on valid definitions and otherwise
fails with the error of the first fault: a repeated id or an executor the registry refuses,
scanning the executors in order; a start that is not an executor; then the limit, the first
edge with an end that is not an executor, and the first executor that cannot be reached. The
workflow loaded is a fresh run of a graph with the definition's name, start and limit, every
executor once with the start first, and every distinct edge once. -/
theorem definition_loading (d : Definition) (reg : Registry) :
    ((∃ inst, d.build reg = .ok inst) ↔ d.Valid reg) ∧
      (∀ err, d.build reg = .error err ↔ d.Fails reg err) ∧
      ∀ inst, d.build reg = .ok inst → inst = Instance.new inst.graph ∧ d.Loaded inst.graph := by
  refine ⟨⟨?_, build_of_valid⟩, fun err => ⟨fun hb => ?_, build_of_fails⟩, fun inst hb => ?_⟩
  · intro hok
    obtain ⟨inst, hb⟩ := hok
    rcases @load_sound d reg with ⟨g, -, hv, -⟩ | ⟨err, herr, -⟩
    · exact hv
    · rw [hb] at herr
      cases herr
  · rcases @load_sound d reg with ⟨g, hok, -, -⟩ | ⟨err', herr, hf⟩
    · rw [hb] at hok
      cases hok
    · rw [hb] at herr
      cases herr
      exact hf
  · rcases @load_sound d reg with ⟨g, hok, -, hl⟩ | ⟨err, herr, -⟩
    · rw [hb] at hok
      cases hok
      exact ⟨rfl, hl⟩
    · rw [hb] at herr
      cases herr

end Definition

end Superstep
