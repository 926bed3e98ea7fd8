import Superstep.Nodes.Standard

/-!
# Scripted executors

A `test.script` executor runs a list of actions given in its configuration: `actions` for each
message, `response_actions` for each response. It exists to reach every behaviour of the runner
with one executor type: targeted sends, several effects from one handler, requests of any
kinds, failures of every sort, and an executor without a response handler.

An action is an object recognised by the first of the keys of `actionKeys`, in that order,
that it holds: a key whose action names something by a string (`send_to`, `count`, `fail`, …)
counts only when its value is a string, any other key counts whatever its value. A message
that is not given is read as `null`, which is not a message; a state value that is not given
is `null`. Inside a handler the *input* is the message handled (the response, in a response
handler) and the *request* is the request message being answered (only in a response handler).
Actions run in order; the first failing one stops the handler, keeping what the earlier ones
did.

Messages in actions are written as message specifications (`Message.ofSpec`). A `count` adds
one to a stored integer, wrapping past the greatest 64-bit integer around to the least.
-/

namespace Superstep

/-- Why a message specification could not be read. -/
inductive SpecError where
  /-- The specification is not an object with a string `kind` and a known `mode`. -/
  | malformed (text : String)
  /-- A tagged body is not a stored value. -/
  | body (e : DecodeError)

/-- Reads a message specification `{"kind": k, "body": b, "mode": m}`. The body is read as
plain JSON (`native`, the default), kept as a document (`json`), or read from its tagged form
(`tagged`). -/
def Message.ofSpec (j : Json) : Except SpecError Message :=
  match j with
  | .object _ =>
    match j.get? "kind" with
    | some (.string kind) =>
      let body := (j.get? "body").getD .null
      match j.get? "mode" with
      | none | some .null | some (.string "native") => .ok ⟨kind, Value.ofJson body⟩
      | some (.string "json") => .ok ⟨kind, .json body⟩
      | some (.string "tagged") =>
        match Value.decode body with
        | .ok v => .ok ⟨kind, v⟩
        | .error e => .error (.body e)
      | some (.string m) => .error (.malformed ("unknown mode '" ++ m ++ "'"))
      | some _ => .error (.malformed "mode must be a string")
    | _ => .error (.malformed "a message needs a string kind")
  | _ => .error (.malformed "a message must be an object")

namespace Nodes

namespace Script

/-- The keys that name an action, in the order they are looked for. -/
def actionKeys : List String :=
  ["send", "send_to", "forward", "forward_to", "forward_as", "forward_request", "yield",
    "yield_input", "yield_request", "yield_superstep", "yield_executor_id", "yield_request_id",
    "request", "request_input", "fail", "invalid", "panic", "panic_any", "count", "set_state",
    "remove_state", "yield_state", "if_state_lt"]

/-- The keys whose action names something by a string: they name an action only when their
value is a string. -/
def textKeys : List String :=
  ["send_to", "forward_to", "forward_as", "request_input", "fail", "invalid", "panic", "count",
    "set_state", "remove_state", "yield_state"]

/-- Whether an action holds `key` in a form that names its action. -/
def names (fields : List (String × Json)) (key : String) : Bool :=
  match Json.lookup fields key with
  | some (.string _) => true
  | some _ => !textKeys.contains key
  | none => false

/-- Fails the handler with an execution failure. -/
def failWith {α : Type} (text : String) : Handler α := throw (.executionFailed text)

/-- A string field of an action, or the bad-action failure. -/
def textField (a : Json) (key : String) : Handler String :=
  match a.get? key with
  | some (.string s) => pure s
  | _ => failWith "bad script action"

/-- A message field of an action, read as `null` when absent, or the bad-message failure. -/
def messageField (a : Json) (key : String) : Handler Message :=
  match Message.ofSpec ((a.get? key).getD .null) with
  | .ok m => pure m
  | .error _ => failWith "bad script message"

/-- The request message, or the no-request failure. -/
def theRequest : Option Message → Handler Message
  | some r => pure r
  | none => failWith "no request"

/-- The stored integer under a key, zero when absent or not an integer. -/
def storedInt (key : String) : Handler Int := do
  return (((← Handler.getState key).bind Value.asI64?).getD 0)

/-- Runs one action; `nested` runs the actions of a branch. -/
def runOne (input : Message) (request : Option Message) (nested : List Json → Handler Unit) :
    Json → Handler Unit
  | .object fields =>
    let a := Json.object fields
    match actionKeys.find? (names fields) with
    | some "send" => do Handler.send (← messageField a "send")
    | some "send_to" => do
      let target ← textField a "send_to"
      Handler.sendTo target (← messageField a "message")
    | some "forward" => Handler.send input
    | some "forward_to" => do Handler.sendTo (← textField a "forward_to") input
    | some "forward_as" => do Handler.send ⟨← textField a "forward_as", input.body⟩
    | some "forward_request" => do Handler.send (← theRequest request)
    | some "yield" => Handler.yieldOutput (Value.ofJson ((a.get? "yield").getD .null))
    | some "yield_input" => Handler.yieldOutput input.body
    | some "yield_request" => do Handler.yieldOutput (← theRequest request).body
    | some "yield_superstep" => do
      Handler.yieldOutput (Value.ofInt (← Handler.context).superstep)
    | some "yield_executor_id" => do
      Handler.yieldOutput (.string (← Handler.context).executorId)
    | some "yield_request_id" => do
      match (← Handler.context).requestId with
      | some r => Handler.yieldOutput (.string r)
      | none => Handler.yieldOutput .null
    | some "request" => do
      let m ← messageField a "request"
      let k ← textField a "response_kind"
      let _ ← Handler.requestInfo m k
    | some "request_input" => do
      let kind ← textField a "request_input"
      let k ← textField a "response_kind"
      let _ ← Handler.requestInfo ⟨kind, input.body⟩ k
    | some "fail" => do failWith (← textField a "fail")
    | some "invalid" => do throw (.invalidPayload input.kind (← textField a "invalid"))
    | some "panic" => do Handler.unwind (.string (← textField a "panic"))
    | some "panic_any" => Handler.unwind .other
    | some "count" => do
      let key ← textField a "count"
      let next := (← storedInt key) + 1
      Handler.setState key (Value.ofInt (if JsonNumber.i64Max < next then JsonNumber.i64Min else next))
    | some "set_state" => do
      let key ← textField a "set_state"
      Handler.setState key (Value.ofJson ((a.get? "value").getD .null))
    | some "remove_state" => do Handler.removeState (← textField a "remove_state")
    | some "yield_state" => do
      let key ← textField a "yield_state"
      Handler.yieldOutput ((← Handler.getState key).getD .null)
    | some "if_state_lt" => do
      let cond := (a.get? "if_state_lt").getD .null
      let key ← textField cond "key"
      let bound ← match (cond.get? "n").bind Json.asI64? with
        | some n => pure n
        | none => failWith "bad script action"
      let branch := if (← storedInt key) < bound then "then" else "else"
      match Json.lookup fields branch with
      | some (.array actions) => nested actions
      | _ => pure ()
    | _ => failWith "unknown script action"
  | _ => failWith "unknown script action"

/-- Runs actions in order; `fuel` bounds the nesting of branches. -/
def runActions (input : Message) (request : Option Message) : Nat → List Json → Handler Unit
  | 0, _ => failWith "bad script action"
  | fuel + 1, actions => actions.forM (runOne input request (runActions input request fuel))

/-- Runs a list of actions. -/
def runAll (input : Message) (request : Option Message) (actions : List Json) : Handler Unit :=
  runActions input request (Json.depth (.array actions)) actions

/-- A list-valued configuration entry, empty when absent or `null`. -/
def listField (config : Config) (key : String) : Except ExecutorError (List Json) :=
  match Json.lookup config key with
  | none | some .null => .ok []
  | some (.array items) => .ok items
  | some _ => .error (.configuration "script fields must be lists")

/-- A pair of strings. -/
def pair? : Json → Option (String × String)
  | .array [.string a, .string b] => some (a, b)
  | _ => none

end Script

/-- Executors that run the actions of their configuration. -/
def script : Factory where
  typeName := "test.script"
  create id config := do
    let accepts ← (← Script.listField config "accepts").mapM fun j =>
      match j with
      | .string s => .ok s
      | _ => .error (.configuration "script accepts must be strings")
    let responds ← (← Script.listField config "responds").mapM fun j =>
      match Script.pair? j with
      | some p => .ok p
      | none => .error (.configuration "script responds must be pairs of strings")
    let actions ← Script.listField config "actions"
    let responseActions ← Script.listField config "response_actions"
    let caps := responds.foldl (fun c (q, r) => c.respondsTo q r) (acceptingAll accepts)
    let reportedId := match Json.lookup config "rename" with
      | some (.string r) => r
      | _ => id
    let plainResponses := match Json.lookup config "default_response_handler" with
      | some (.bool true) => true
      | _ => false
    pure {
      id := reportedId
      caps
      handle := fun m => Script.runAll m none actions
      handleResponse := if plainResponses then Executor.noResponseHandler reportedId
        else fun q r => Script.runAll r (some q) responseActions }

end Nodes

end Superstep
