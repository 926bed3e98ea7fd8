import Superstep.Json.Print
import Superstep.Core.Error

/-!
# Executor configuration

An executor's configuration is a map from keys to JSON documents, as a definition file gives
it. The readers here treat an absent key and a `null` alike, and otherwise insist on the kind of
value they read, naming the key and showing the value in compact JSON when it is wrong.
-/

namespace Superstep

/-- An executor's configuration: keys sorted and unique. -/
abbrev Config := List (String × Json)

namespace Config

/-- The value under a key, with `null` counted as absent. -/
def find? (c : Config) (key : String) : Option Json :=
  match Json.lookup c key with
  | some .null => none
  | v => v

/-- An optional integer setting. -/
def int? (c : Config) (key : String) : Except ExecutorError (Option Int) :=
  match c.find? key with
  | none => .ok none
  | some v =>
    match v.asI64? with
    | some i => .ok (some i)
    | none => .error (.configuration ("'" ++ key ++ "' must be an integer, got " ++ v.render))

/-- An optional string setting. -/
def str? (c : Config) (key : String) : Except ExecutorError (Option String) :=
  match c.find? key with
  | none => .ok none
  | some v =>
    match v.asStr? with
    | some s => .ok (some s)
    | none => .error (.configuration ("'" ++ key ++ "' must be a string, got " ++ v.render))

/-- An optional boolean setting. -/
def bool? (c : Config) (key : String) : Except ExecutorError (Option Bool) :=
  match c.find? key with
  | none => .ok none
  | some v =>
    match v.asBool? with
    | some b => .ok (some b)
    | none => .error (.configuration ("'" ++ key ++ "' must be a boolean, got " ++ v.render))

/-- An optional integer setting that must not be negative. -/
def nat? (c : Config) (key : String) : Except ExecutorError (Option Nat) := do
  match ← c.int? key with
  | none => pure none
  | some i =>
    if i < 0 then .error (.configuration ("'" ++ key ++ "' must not be negative, got " ++ toString i))
    else pure (some i.toNat)

end Config

end Superstep
