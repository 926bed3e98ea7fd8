import Mathlib
import Superstep.Proofs.Reach

/-!
# What calls on a builder leave in it

A workflow is built by a sequence of calls on a builder (`Graph.Builder.Call`). What they leave
can be read off the calls alone: the executors registered are the start followed by those each
call names, in order (`Graph.Builder.registrations`); the edges are those the calls name, in
order and with repeats (`Graph.Builder.edgesOf`); the limit and the name are the last ones set.

Of the registrations, the builder keeps the first executor under each id, in order, and records
as duplicates the ids of the registrations made by another instance than that first one
(`Graph.Builder.clashing`). `Graph.Builder.Registered` states this; every call keeps it.
-/

namespace Superstep

namespace Executor

theorem sameInstance_iff {a b : Executor} :
    a.sameInstance b = true ↔ a.id = b.id ∧ a.instanceKey = b.instanceKey := by
  simp [sameInstance]

theorem sameInstance_self (a : Executor) : a.sameInstance a = true :=
  sameInstance_iff.2 ⟨rfl, rfl⟩

theorem sameInstance_symm {a b : Executor} (h : a.sameInstance b = true) :
    b.sameInstance a = true := by
  obtain ⟨hid, hkey⟩ := sameInstance_iff.1 h
  exact sameInstance_iff.2 ⟨hid.symm, hkey.symm⟩

theorem sameInstance_trans {a b c : Executor} (hab : a.sameInstance b = true)
    (hbc : b.sameInstance c = true) : a.sameInstance c = true := by
  obtain ⟨hid, hkey⟩ := sameInstance_iff.1 hab
  obtain ⟨hid', hkey'⟩ := sameInstance_iff.1 hbc
  exact sameInstance_iff.2 ⟨hid.trans hid', hkey.trans hkey'⟩

end Executor

namespace Graph.Builder

/-- One call on a builder. -/
inductive Call where
  | addExecutor (e : Executor)
  | addEdge (src dst : Executor)
  | fanOut (src : Executor) (dsts : List Executor)
  | fanIn (srcs : List Executor) (dst : Executor)
  | connect (src dst : String)
  | withConfig (maxSupersteps : Nat)
  | withName (name : String)

/-- Makes one call on a builder. -/
def call (b : Builder) : Call → Builder
  | .addExecutor e => b.addExecutor e
  | .addEdge src dst => b.addEdge src dst
  | .fanOut src dsts => b.fanOut src dsts
  | .fanIn srcs dst => b.fanIn srcs dst
  | .connect src dst => b.connect src dst
  | .withConfig maxSupersteps => b.withConfig maxSupersteps
  | .withName name => b.withName name

/-- Makes calls on a builder, in order. -/
def calls (b : Builder) (cs : List Call) : Builder := cs.foldl call b

namespace Call

/-- The executors a call registers, in order. -/
def registers : Call → List Executor
  | .addExecutor e => [e]
  | .addEdge src dst => [src, dst]
  | .fanOut src dsts => dsts.flatMap fun dst => [src, dst]
  | .fanIn srcs dst => srcs.flatMap fun src => [src, dst]
  | .connect .. | .withConfig _ | .withName _ => []

/-- The edges a call adds, in order. -/
def edges : Call → List (String × String)
  | .addEdge src dst => [(src.id, dst.id)]
  | .fanOut src dsts => dsts.map fun dst => (src.id, dst.id)
  | .fanIn srcs dst => srcs.map fun src => (src.id, dst.id)
  | .connect src dst => [(src, dst)]
  | .addExecutor _ | .withConfig _ | .withName _ => []

/-- The superstep limit a call sets. -/
def limit? : Call → Option Nat
  | .withConfig maxSupersteps => some maxSupersteps
  | _ => none

/-- The name a call gives. -/
def name? : Call → Option String
  | .withName name => some name
  | _ => none

end Call

/-- The executors registered on a new builder and by calls on it, in order: the start first. -/
def registrations (start : Executor) (cs : List Call) : List Executor :=
  start :: cs.flatMap Call.registers

/-- The edges calls add, in order, repeats included. -/
def edgesOf (cs : List Call) : List (String × String) := cs.flatMap Call.edges

/-- The superstep limit last set by calls, or the default. -/
def limitOf (cs : List Call) : Nat := ((cs.filterMap Call.limit?).getLast?).getD 100

/-- The name last given by calls, or the default. -/
def nameOf (cs : List Call) : String := ((cs.filterMap Call.name?).getLast?).getD "workflow"

/-! ## Registration -/

/-- The registrations made by another instance than the first one registered under their id. -/
def clashing (R : List Executor) : List Executor :=
  R.filter fun x => (R.find? (·.id == x.id)).any fun y => !y.sameInstance x

/-- No id is registered by two different instances. -/
def NoClash (R : List Executor) : Prop :=
  ∀ a ∈ R, ∀ b ∈ R, a.id = b.id → a.sameInstance b = true

theorem clashing_eq_nil_iff {R : List Executor} : clashing R = [] ↔ NoClash R := by
  constructor
  · intro h a ha b hb hab
    obtain ⟨y, hy⟩ : ∃ y, R.find? (·.id == a.id) = some y := by
      rw [← Option.isSome_iff_exists, List.find?_isSome]
      exact ⟨a, ha, by simp⟩
    have hfirst : ∀ x ∈ R, x.id = a.id → y.sameInstance x = true := by
      intro x hx hxa
      have hx' := List.filter_eq_nil_iff.1 h x hx
      rw [hxa, hy] at hx'
      simpa using hx'
    exact Executor.sameInstance_trans (Executor.sameInstance_symm (hfirst a ha rfl))
      (hfirst b hb hab.symm)
  · intro h
    apply List.filter_eq_nil_iff.2
    intro x hx
    cases hy : R.find? (·.id == x.id) with
    | none => simp
    | some y =>
      have hyx : y.id = x.id := by simpa using List.find?_some hy
      simp [h y (List.mem_of_find?_eq_some hy) x hx hyx]

theorem find?_append_of_found {R : List Executor} {e x : Executor}
    (hx : R.find? (·.id == e.id) = some x) (id : String) :
    (R ++ [e]).find? (·.id == id) = R.find? (·.id == id) := by
  rw [List.find?_append]
  cases hr : R.find? (·.id == id) with
  | some y => rfl
  | none =>
    have hne : e.id ≠ id := by
      intro he
      rw [he, hr] at hx
      cases hx
    simp [hne]

theorem find?_append_of_none {R : List Executor} {e : Executor}
    (hx : R.find? (·.id == e.id) = none) (id : String) :
    (R ++ [e]).find? (·.id == id) = if e.id = id then some e else R.find? (·.id == id) := by
  rw [List.find?_append]
  by_cases he : e.id = id
  · subst he
    simp [hx]
  · simp [he]

theorem clashing_append_singleton (R : List Executor) (e : Executor) :
    clashing (R ++ [e]) =
      clashing R ++ if (R.find? (·.id == e.id)).any (fun y => !y.sameInstance e) then [e] else [] := by
  unfold clashing
  rw [List.filter_append]
  congr 1
  · apply List.filter_congr
    intro x hx
    obtain ⟨y, hy⟩ : ∃ y, R.find? (·.id == x.id) = some y := by
      rw [← Option.isSome_iff_exists, List.find?_isSome]
      exact ⟨x, hx, by simp⟩
    rw [List.find?_append, hy]
    rfl
  · cases hy : R.find? (·.id == e.id) with
    | none => simp [find?_append_of_none hy, Executor.sameInstance_self]
    | some y => simp [find?_append_of_found hy, List.filter_cons, hy]

/-- What a builder keeps of the registrations `R` made on it: for each id the first executor
registered under it, in order, and the ids registered again by another instance. -/
structure Registered (R : List Executor) (b : Builder) : Prop where
  lookup : ∀ id, b.executors.find? (·.id == id) = R.find? (·.id == id)
  ids : b.executors.map (·.id) = (R.map (·.id)).eraseDups
  first : ∀ x ∈ b.executors, R.find? (·.id == x.id) = some x
  duplicates : b.duplicates = (clashing R).map (·.id)

namespace Registered

variable {R : List Executor} {b : Builder}

theorem congr {b' : Builder} (h : Registered R b) (he : b'.executors = b.executors)
    (hd : b'.duplicates = b.duplicates) : Registered R b' where
  lookup := by
    rw [he]
    exact h.lookup
  ids := by
    rw [he]
    exact h.ids
  first := by
    rw [he]
    exact h.first
  duplicates := by
    rw [hd]
    exact h.duplicates

theorem empty (start : String) : Registered [] { start := start } where
  lookup _ := rfl
  ids := rfl
  first _ h := by simp at h
  duplicates := rfl

theorem mem_ids (h : Registered R b) {id : String} : id ∈ b.executors.map (·.id) ↔ id ∈ R.map (·.id) := by
  rw [h.ids, List.mem_eraseDups]

theorem of_found {e x : Executor} (h : Registered R b) (hx : R.find? (·.id == e.id) = some x)
    (dups : List String) (hd : dups = (clashing (R ++ [e])).map (·.id)) :
    Registered (R ++ [e]) { b with duplicates := dups } where
  lookup id := by
    rw [find?_append_of_found hx]
    exact h.lookup id
  ids := by
    have hmem : e.id ∈ R.map (·.id) := by
      have hxe : x.id = e.id := by simpa using List.find?_some hx
      exact List.mem_map.2 ⟨x, List.mem_of_find?_eq_some hx, hxe⟩
    rw [List.map_append, List.map_singleton, Graph.eraseDups_append_singleton, if_pos hmem]
    exact h.ids
  first y hy := by
    rw [find?_append_of_found hx]
    exact h.first y hy
  duplicates := hd

/-- Registering keeps the builder's account of the registrations. -/
theorem register (h : Registered R b) (e : Executor) : Registered (R ++ [e]) (b.register e) := by
  unfold Builder.register
  cases hf : b.executors.find? (·.id == e.id) with
  | none =>
    have hR : R.find? (·.id == e.id) = none := (h.lookup e.id).symm.trans hf
    have hnew : e.id ∉ R.map (·.id) := by
      rw [← h.mem_ids]
      intro hmem
      obtain ⟨y, hy, hye⟩ := List.mem_map.1 hmem
      exact List.find?_eq_none.1 hf y hy (by simp [hye])
    refine ⟨fun id => ?_, ?_, fun x hx => ?_, ?_⟩
    · rw [List.find?_append, h.lookup, find?_append_of_none hR]
      by_cases he : e.id = id
      · subst he
        simp [hR]
      · simp [he]
    · rw [List.map_append, List.map_append, List.map_singleton,
        Graph.eraseDups_append_singleton, if_neg hnew, h.ids]
    · rw [find?_append_of_none hR]
      rcases List.mem_append.1 hx with hx | hx
      · have hne : e.id ≠ x.id := by
          intro he
          exact hnew (he ▸ h.mem_ids.1 (List.mem_map_of_mem hx))
        rw [if_neg hne]
        exact h.first x hx
      · rw [List.mem_singleton.1 hx, if_pos rfl]
    · rw [clashing_append_singleton, hR]
      simpa using h.duplicates
  | some x =>
    have hR : R.find? (·.id == e.id) = some x := (h.lookup e.id).symm.trans hf
    dsimp only
    split
    · rename_i hsame
      exact h.of_found hR b.duplicates (by
        rw [clashing_append_singleton, hR]
        simp [hsame, h.duplicates])
    · rename_i hother
      exact h.of_found hR _ (by
        rw [clashing_append_singleton, hR]
        simp [hother, h.duplicates])

theorem new (start : Executor) : Registered [start] (Builder.new start) :=
  (empty start.id).register start

theorem addEdge (h : Registered R b) (src dst : Executor) :
    Registered (R ++ [src, dst]) (b.addEdge src dst) := by
  have h2 := (h.register src).register dst
  rw [List.append_assoc] at h2
  exact h2.congr rfl rfl

end Registered

/-! ## Calls -/

/-- Adds edges between pairs of executors, in order. -/
def addEdges (b : Builder) (ps : List (Executor × Executor)) : Builder :=
  ps.foldl (fun b p => b.addEdge p.1 p.2) b

theorem fanOut_eq (b : Builder) (src : Executor) (dsts : List Executor) :
    b.fanOut src dsts = b.addEdges (dsts.map fun dst => (src, dst)) := by
  simp [fanOut, addEdges, List.foldl_map]

theorem fanIn_eq (b : Builder) (srcs : List Executor) (dst : Executor) :
    b.fanIn srcs dst = b.addEdges (srcs.map fun src => (src, dst)) := by
  simp [fanIn, addEdges, List.foldl_map]

theorem register_frame (b : Builder) (e : Executor) :
    (b.register e).name = b.name ∧ (b.register e).start = b.start ∧
      (b.register e).edges = b.edges ∧ (b.register e).maxSupersteps = b.maxSupersteps := by
  unfold register
  split
  · split <;> exact ⟨rfl, rfl, rfl, rfl⟩
  · exact ⟨rfl, rfl, rfl, rfl⟩

theorem addEdges_frame (b : Builder) (ps : List (Executor × Executor)) :
    (b.addEdges ps).name = b.name ∧ (b.addEdges ps).start = b.start ∧
      (b.addEdges ps).edges = b.edges ++ ps.map (fun p => (p.1.id, p.2.id)) ∧
      (b.addEdges ps).maxSupersteps = b.maxSupersteps := by
  induction ps generalizing b with
  | nil => simp [addEdges]
  | cons p ps ih =>
    obtain ⟨hname, hstart, hedges, hmax⟩ := ih (b.addEdge p.1 p.2)
    refine ⟨hname.trans ?_, hstart.trans ?_, hedges.trans ?_, hmax.trans ?_⟩ <;>
      simp [addEdge, register_frame]

theorem Registered.addEdges {R : List Executor} {b : Builder} (h : Registered R b)
    (ps : List (Executor × Executor)) :
    Registered (R ++ ps.flatMap fun p => [p.1, p.2]) (b.addEdges ps) := by
  induction ps generalizing R b with
  | nil => simpa [Builder.addEdges] using h
  | cons p ps ih => simpa [Builder.addEdges] using ih (h.addEdge p.1 p.2)

theorem call_frame (b : Builder) (c : Call) :
    (b.call c).name = c.name?.getD b.name ∧ (b.call c).start = b.start ∧
      (b.call c).edges = b.edges ++ c.edges ∧
      (b.call c).maxSupersteps = c.limit?.getD b.maxSupersteps := by
  cases c with
  | addExecutor e =>
    simpa [call, addExecutor, Call.name?, Call.limit?, Call.edges] using register_frame b e
  | addEdge src dst => simp [call, addEdge, register_frame, Call.name?, Call.limit?, Call.edges]
  | fanOut src dsts =>
    simpa [call, fanOut_eq, Call.name?, Call.limit?, Call.edges, Function.comp_def] using
      addEdges_frame b (dsts.map fun dst => (src, dst))
  | fanIn srcs dst =>
    simpa [call, fanIn_eq, Call.name?, Call.limit?, Call.edges, Function.comp_def] using
      addEdges_frame b (srcs.map fun src => (src, dst))
  | connect src dst => simp [call, connect, Call.name?, Call.limit?, Call.edges]
  | withConfig n => simp [call, withConfig, Call.name?, Call.limit?, Call.edges]
  | withName n => simp [call, withName, Call.name?, Call.limit?, Call.edges]

theorem Registered.call {R : List Executor} {b : Builder} (h : Registered R b) (c : Call) :
    Registered (R ++ c.registers) (b.call c) := by
  cases c with
  | addExecutor e => exact h.register e
  | addEdge src dst => exact h.addEdge src dst
  | fanOut src dsts =>
    rw [Builder.call, fanOut_eq]
    simpa [Call.registers, List.flatMap_map] using h.addEdges (dsts.map fun dst => (src, dst))
  | fanIn srcs dst =>
    rw [Builder.call, fanIn_eq]
    simpa [Call.registers, List.flatMap_map] using h.addEdges (srcs.map fun src => (src, dst))
  | connect src dst =>
    rw [Call.registers, List.append_nil]
    exact h.congr rfl rfl
  | withConfig n =>
    rw [Call.registers, List.append_nil]
    exact h.congr rfl rfl
  | withName n =>
    rw [Call.registers, List.append_nil]
    exact h.congr rfl rfl

theorem Registered.calls {R : List Executor} {b : Builder} (h : Registered R b) (cs : List Call) :
    Registered (R ++ cs.flatMap Call.registers) (b.calls cs) := by
  induction cs generalizing R b with
  | nil => simpa [Builder.calls] using h
  | cons c cs ih => simpa [Builder.calls] using ih (h.call c)

theorem getD_getLast?_filterMap_cons {β : Type} (f : Call → Option β) (c : Call) (cs : List Call)
    (d : β) :
    ((c :: cs).filterMap f).getLast?.getD d = (cs.filterMap f).getLast?.getD ((f c).getD d) := by
  cases h : f c <;> simp [h, List.getLast?_cons]

theorem calls_frame (b : Builder) (cs : List Call) :
    (b.calls cs).name = ((cs.filterMap Call.name?).getLast?).getD b.name ∧
      (b.calls cs).start = b.start ∧ (b.calls cs).edges = b.edges ++ edgesOf cs ∧
      (b.calls cs).maxSupersteps = ((cs.filterMap Call.limit?).getLast?).getD b.maxSupersteps := by
  induction cs generalizing b with
  | nil => simp [calls, edgesOf]
  | cons c cs ih =>
    obtain ⟨hname, hstart, hedges, hmax⟩ := call_frame b c
    obtain ⟨hname', hstart', hedges', hmax'⟩ := ih (b.call c)
    refine ⟨?_, ?_, ?_, ?_⟩
    · rw [getD_getLast?_filterMap_cons, ← hname]
      exact hname'
    · exact hstart'.trans hstart
    · rw [edgesOf, List.flatMap_cons, ← List.append_assoc, ← hedges]
      exact hedges'
    · rw [getD_getLast?_filterMap_cons, ← hmax]
      exact hmax'

/-- A new builder after calls: its registrations, name, start, edges and limit are those the
calls name. -/
theorem new_calls (start : Executor) (cs : List Call) :
    Registered (registrations start cs) ((new start).calls cs) ∧
      ((new start).calls cs).name = nameOf cs ∧ ((new start).calls cs).start = start.id ∧
      ((new start).calls cs).edges = edgesOf cs ∧
      ((new start).calls cs).maxSupersteps = limitOf cs := by
  obtain ⟨hname, hstart, hedges, hmax⟩ := calls_frame (new start) cs
  obtain ⟨hname0, hstart0, hedges0, hmax0⟩ := register_frame { start := start.id } start
  refine ⟨(Registered.new start).calls cs, ?_, ?_, ?_, ?_⟩
  · rw [hname, nameOf]
    exact congrArg _ hname0
  · exact hstart.trans hstart0
  · rw [hedges]
    simp [new, hedges0]
  · rw [hmax, limitOf]
    exact congrArg _ hmax0

end Graph.Builder

end Superstep
