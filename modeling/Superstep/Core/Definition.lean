import Superstep.Core.Message
import Superstep.Core.Config

/-!
# Workflow definitions

A `Definition` is a workflow as stored in a file: a name, an optional description, the start
executor, the executors (an id, a registry type and a configuration each), the edges, and the
superstep limit. In stored form, `description`, `edges`, `settings` and the executors'
`config` may be left out; the limit defaults to 100.
-/

namespace Superstep

/-- An executor of a definition. -/
structure ExecutorSpec where
  id : String
  typeName : String
  config : Config := []
  deriving Inhabited

/-- A workflow as stored in a file. -/
structure Definition where
  name : String
  description : Option String := none
  start : String
  executors : List ExecutorSpec := []
  edges : List (String × String) := []
  maxSupersteps : Nat := 100
  deriving Inhabited

namespace ExecutorSpec

/-- The stored form. -/
def toWire (s : ExecutorSpec) : Json :=
  .object [("config", .object s.config), ("id", .string s.id), ("type", .string s.typeName)]

/-- The stored shape. -/
def shape : Wire.Shape :=
  .record "struct ExecutorSpec"
    [("id", .string, none), ("type", .string, none), ("config", .map .any, some (.object []))]

/-- The spec a normal form of `shape` stands for. -/
def ofWire (j : Json) : ExecutorSpec :=
  ⟨((j.get? "id").bind Json.asStr?).getD "", ((j.get? "type").bind Json.asStr?).getD "",
    ((j.get? "config").bind Json.asObject?).getD []⟩

/-- Sets a configuration entry. -/
def withConfig (s : ExecutorSpec) (key : String) (v : Json) : ExecutorSpec :=
  { s with config := Json.insertSorted key v s.config }

end ExecutorSpec

namespace Definition

/-- The default superstep limit. -/
def defaultMaxSupersteps : Nat := 100

/-- The stored shape of an edge. -/
def edgeShape : Wire.Shape := .record "struct EdgeSpec" [("from", .string, none), ("to", .string, none)]

/-- The stored shape of the settings. -/
def settingsShape : Wire.Shape :=
  .record "struct WorkflowSettings"
    [("max_supersteps", .unsigned "usize" (Nat.pow 2 64 - 1), some (Json.int defaultMaxSupersteps))]

/-- The stored shape of a definition. -/
def shape : Wire.Shape :=
  .record "struct WorkflowDefinition"
    [("name", .string, none), ("description", .option .string, some .null),
      ("start", .string, none), ("executors", .seq ExecutorSpec.shape, none),
      ("edges", .seq edgeShape, some (.array [])),
      ("settings", settingsShape,
        some (.object [("max_supersteps", Json.int defaultMaxSupersteps)]))]

/-- The stored form. -/
def toWire (d : Definition) : Json :=
  .object [("description", match d.description with
      | some s => .string s
      | none => .null),
    ("edges", .array (d.edges.map fun (f, t) => .object [("from", .string f), ("to", .string t)])),
    ("executors", .array (d.executors.map ExecutorSpec.toWire)), ("name", .string d.name),
    ("settings", .object [("max_supersteps", Json.int d.maxSupersteps)]),
    ("start", .string d.start)]

/-- The stored form with the fields in declaration order, as written to files. -/
def toDocument (d : Definition) : Json :=
  .object [("name", .string d.name),
    ("description", match d.description with
      | some s => .string s
      | none => .null),
    ("start", .string d.start),
    ("executors", .array (d.executors.map fun s =>
      .object [("id", .string s.id), ("type", .string s.typeName), ("config", .object s.config)])),
    ("edges", .array (d.edges.map fun (f, t) => .object [("from", .string f), ("to", .string t)])),
    ("settings", .object [("max_supersteps", Json.int d.maxSupersteps)])]

/-- The definition a normal form of `shape` stands for. -/
def ofWire (j : Json) : Definition :=
  let text (o : Json) (k : String) : String := ((o.get? k).bind Json.asStr?).getD ""
  { name := text j "name"
    description := (j.get? "description").bind Json.asStr?
    start := text j "start"
    executors := (((j.get? "executors").bind Json.asArray?).getD []).map ExecutorSpec.ofWire
    edges := (((j.get? "edges").bind Json.asArray?).getD []).map fun e => (text e "from", text e "to")
    maxSupersteps := (((j.get? "settings").bind (·.get? "max_supersteps")).bind Json.asU64?).getD
      defaultMaxSupersteps }

/-- Reads a definition from a stored document. -/
def decode (j : Json) : Except FlowError Definition :=
  match shape.check j with
  | .ok n => .ok (ofWire n)
  | .error e => .error (FlowError.decoding e)

/-- A definition with a name and a start executor and nothing else. -/
def new (name start : String) : Definition := { name, start }

/-- Adds an executor and returns its id. -/
def addExecutor (d : Definition) (s : ExecutorSpec) : Definition × String :=
  ({ d with executors := d.executors ++ [s] }, s.id)

/-- Adds an edge. -/
def connect (d : Definition) (src dst : String) : Definition :=
  { d with edges := d.edges ++ [(src, dst)] }

/-- The first executor with an id. -/
def findExecutor? (d : Definition) (id : String) : Option ExecutorSpec :=
  d.executors.find? (·.id == id)

end Definition

end Superstep
