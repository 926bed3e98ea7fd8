import Superstep.Engine.Executor

/-!
# Workflow graphs

A `Graph` is the frozen structure of a workflow: its executors in registration order, the start
executor, and the edges, kept per source in the order they were added. A message sent by an
executor goes along its edges to every target whose capabilities accept the message's kind
(`Graph.route`); a targeted send narrows this to one edge.

A `Graph.Builder` collects executors and edges and validates them (`Graph.Builder.build`),
reporting the first problem found in this order:
1. two different executors registered under one id;
2. a superstep limit of zero;
3. an edge whose source or target is not registered (edges in order, source first); repeated
   edges are dropped;
4. an executor that cannot be reached from the start executor along edges.
-/

namespace Superstep

/-- The frozen structure of a workflow. -/
structure Graph where
  name : String
  start : String
  /-- The executors, in registration order. -/
  nodes : List Executor
  /-- The edge targets of each source, in the order the edges were added. -/
  edges : List (String × List String)
  /-- The number of supersteps after which a run fails. -/
  maxSupersteps : Nat

namespace Graph

/-- The executor with an id. -/
def executor? (g : Graph) (id : String) : Option Executor := g.nodes.find? (·.id == id)

/-- The edge targets of an executor, in the order the edges were added. -/
def successors (g : Graph) (id : String) : List String :=
  ((g.edges.find? (·.1 == id)).map (·.2)).getD []

/-- The number of edges. -/
def edgeCount (g : Graph) : Nat := g.edges.foldl (fun n e => n + e.2.length) 0

/-- The receivers of a message of `kind` sent by `source`: the edge targets that accept the
kind, narrowed to `target` when one is given. -/
def route (g : Graph) (source kind : String) (target : Option String) : List String :=
  (g.successors source).filter fun id =>
    (match target with
      | some t => t == id
      | none => true) &&
    (match g.executor? id with
      | some e => e.caps.canHandle kind
      | none => false)

/-- Adds an edge to per-source edge lists, unless it is there already. -/
def addEdge (edges : List (String × List String)) (src dst : String) : List (String × List String) :=
  match edges.find? (·.1 == src) with
  | some (_, ds) =>
    if ds.contains dst then edges
    else edges.map fun (s, ts) => if s == src then (s, ts ++ [dst]) else (s, ts)
  | none => edges ++ [(src, [dst])]

/-- The executors reachable from `frontier` along edges, with `seen` already found; `fuel`
bounds the number of rounds. -/
def reach (edges : List (String × List String)) : Nat → List String → List String → List String
  | 0, _, seen => seen
  | fuel + 1, frontier, seen =>
    let next := (frontier.flatMap fun id => ((edges.find? (·.1 == id)).map (·.2)).getD []).filter
      fun id => !seen.contains id
    let next := next.eraseDups
    if next.isEmpty then seen else reach edges fuel next (seen ++ next)

/-- Collects executors and edges of a workflow under construction. -/
structure Builder where
  name : String := "workflow"
  start : String
  executors : List Executor := []
  edges : List (String × String) := []
  maxSupersteps : Nat := 100
  /-- Ids registered by two different executors, in the order they were met. -/
  duplicates : List String := []

namespace Builder

/-- Registers an executor: a second executor with a registered id is a duplicate, the same
executor again changes nothing. -/
def register (b : Builder) (e : Executor) : Builder :=
  match b.executors.find? (·.id == e.id) with
  | some x => if x.sameInstance e then b else { b with duplicates := b.duplicates ++ [e.id] }
  | none => { b with executors := b.executors ++ [e] }

/-- A builder whose start executor is `start`. -/
def new (start : Executor) : Builder := register { start := start.id } start

/-- Names the workflow. -/
def withName (b : Builder) (name : String) : Builder := { b with name := name }

/-- Sets the number of supersteps after which a run fails. -/
def withConfig (b : Builder) (maxSupersteps : Nat) : Builder := { b with maxSupersteps := maxSupersteps }

/-- Adds an executor. -/
def addExecutor (b : Builder) (e : Executor) : Builder := b.register e

/-- Adds an edge between two executors, registering both. -/
def addEdge (b : Builder) (src dst : Executor) : Builder :=
  let b := (b.register src).register dst
  { b with edges := b.edges ++ [(src.id, dst.id)] }

/-- Adds edges from one executor to several. -/
def fanOut (b : Builder) (src : Executor) (dsts : List Executor) : Builder :=
  dsts.foldl (fun b d => b.addEdge src d) b

/-- Adds edges from several executors to one. -/
def fanIn (b : Builder) (srcs : List Executor) (dst : Executor) : Builder :=
  srcs.foldl (fun b s => b.addEdge s dst) b

/-- Adds an edge between executors given by id. -/
def connect (b : Builder) (src dst : String) : Builder := { b with edges := b.edges ++ [(src, dst)] }

/-- Checks every edge's ends and collects the edges without repeats. -/
def collectEdges (ids : List String) :
    List (String × String) → List (String × List String) → Except WorkflowError (List (String × List String))
  | [], acc => .ok acc
  | (s, d) :: rest, acc =>
    if !ids.contains s then .error (.executorNotFound s)
    else if !ids.contains d then .error (.executorNotFound d)
    else collectEdges ids rest (Graph.addEdge acc s d)

/-- Validates the collected executors and edges into a graph. -/
def build (b : Builder) : Except WorkflowError Graph := do
  if let some id := b.duplicates.head? then throw (.duplicateExecutor id)
  if b.maxSupersteps = 0 then throw (.invalid "max_supersteps must be at least 1")
  let ids := b.executors.map (·.id)
  let edges ← collectEdges ids b.edges []
  if !ids.contains b.start then throw (.executorNotFound b.start)
  let reached := reach edges (ids.length + 1) [b.start] [b.start]
  if let some e := b.executors.find? (fun e => !reached.contains e.id) then
    throw (.unreachable e.id)
  pure ⟨b.name, b.start, b.executors, edges, b.maxSupersteps⟩

end Builder

end Graph

end Superstep
