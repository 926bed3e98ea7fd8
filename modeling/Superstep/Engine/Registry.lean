import Superstep.Nodes.Standard
import Superstep.Nodes.Script

/-!
# The registry of executor types

A `Registry` maps type names to factories. Creating an executor through it checks, in order,
that the type is known, that the factory accepts the configuration, and that the executor it
made carries the id it was asked for. Types are listed in sorted order.
-/

namespace Superstep

/-- The executor types a workflow may use. -/
structure Registry where
  factories : List Factory := []

namespace Registry

/-- Registers a factory, replacing any earlier one of its type. -/
def register (r : Registry) (f : Factory) : Registry :=
  if r.factories.any (·.typeName == f.typeName) then
    ⟨r.factories.map fun g => if g.typeName == f.typeName then f else g⟩
  else ⟨r.factories ++ [f]⟩

/-- The factory of a type. -/
def find? (r : Registry) (typeName : String) : Option Factory :=
  r.factories.find? (·.typeName == typeName)

/-- The registered type names, sorted. -/
def types (r : Registry) : List String :=
  r.factories.foldl (fun acc f => insertSortedString f.typeName acc) []

/-- The metadata of a type. -/
def metadata? (r : Registry) (typeName : String) : Option Metadata :=
  (r.find? typeName).map (·.metadata)

/-- Creates an executor of a type with an id and a configuration; `key` numbers the instance. -/
def create (r : Registry) (typeName id : String) (config : Config) (key : Nat) :
    Except WorkflowError Executor :=
  match r.find? typeName with
  | none => .error (.unknownExecutorType typeName)
  | some f =>
    match f.create id config with
    | .error e => .error (.invalid ("Failed to create executor '" ++ id ++ "': " ++ e.message))
    | .ok e =>
      if e.id != id then
        .error (.invalid ("Factory for '" ++ typeName ++ "' returned executor '" ++ e.id ++
          "' instead of '" ++ id ++ "'"))
      else .ok { e with instanceKey := key }

/-- The standard executor types. -/
def standard : Registry := Nodes.standard.foldl register {}

/-- The standard executor types and the scripted one. -/
def withScript : Registry := standard.register Nodes.script

end Registry

end Superstep
