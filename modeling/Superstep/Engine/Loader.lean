import Superstep.Core.Definition
import Superstep.Engine.Registry
import Superstep.Engine.Run
import Superstep.Wire.Text

/-! Loading a workflow from its definition: `Definition.build` makes every executor of the
definition with a registry and assembles the graph, `Definition.parse` reads a definition from
its text, and `Definition.load` does both.

Executors are made in the order of the definition; the first id given twice, the first type
the registry does not know and the first configuration a factory rejects stop the loading, in
that order for each executor. The start executor is looked up among the made ones before the
graph is validated, so a missing start is reported even when the graph has other faults.
Each made executor is a distinct instance (numbered by its position), so the graph builder
sees the start executor, registered twice, as one executor. -/

namespace Superstep

namespace Definition

/-- Makes the executors of a list of specifications, each numbered by its position. -/
def makeExecutors (reg : Registry) :
    Nat → List ExecutorSpec → List Executor → Except FlowError (List Executor)
  | _, [], made => .ok made.reverse
  | key, s :: rest, made =>
    if made.any (·.id == s.id) then .error (.workflow (.duplicateExecutor s.id))
    else
      match reg.create s.typeName s.id s.config key with
      | .ok e => makeExecutors reg (key + 1) rest (e :: made)
      | .error e => .error (.workflow e)

/-- Makes every executor of a definition and validates the workflow they form. -/
def build (d : Definition) (reg : Registry) : Except FlowError Instance := do
  let made ← makeExecutors reg 0 d.executors []
  let start ← match made.find? (·.id == d.start) with
    | some e => pure e
    | none => throw (.workflow (.executorNotFound d.start))
  let b := { Graph.Builder.new start with name := d.name, maxSupersteps := d.maxSupersteps }
  let b := made.foldl Graph.Builder.addExecutor b
  let b := d.edges.foldl (fun b (src, dst) => b.connect src dst) b
  match b.build with
  | .ok g => pure (Instance.new g)
  | .error e => throw (.workflow e)

/-- Reads a definition from its text. -/
def parse (text : String) : Except FlowError Definition :=
  match Wire.Shape.parseText shape text with
  | .ok j => .ok (ofWire j)
  | .error e => .error (.serialization e)

/-- Reads a definition from its text and builds its workflow. -/
def load (text : String) (reg : Registry) : Except FlowError Instance := do
  (← parse text).build reg

end Definition

end Superstep
