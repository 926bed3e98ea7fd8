import Superstep.Cli.Flow

/-!
# Demonstrations

Four runs of small workflows built in code, shown event by event:

* `polling`: a ping-pong of two counters in the background, polled every 10 ms until it is over;
* `respond`: a dispatcher feeding a slow counting loop (each round waits 20 ms) and an approval
  gate; the request is approved as soon as a poll (every 5 ms) shows it, which is while the loop
  still runs, so the answer joins the run in flight instead of starting another;
* `errors`: a failing run in the background, a second run on the same workflow afterwards, and a
  third run that is still in flight when a fourth is refused;
* `ping-pong`: the ping-pong run, synchronously.

Outputs are listed in the debug notation of values, as `Number(10.0)`.
-/

namespace Superstep

namespace Cli

mutual
/-- A JSON document in debug notation. -/
def jsonDebug : Json → String
  | .null => "Null"
  | .bool b => "Bool(" ++ toString b ++ ")"
  | .number n => "Number(" ++ n.render ++ ")"
  | .string s => "String(" ++ Text.literal s ++ ")"
  | .array items => "Array [" ++ jsonDebugList items ++ "]"
  | .object fields => "Object \x7b" ++ jsonDebugFields fields ++ "\x7d"

/-- Items in debug notation, comma-separated. -/
def jsonDebugList : List Json → String
  | [] => ""
  | [j] => jsonDebug j
  | j :: rest => jsonDebug j ++ ", " ++ jsonDebugList rest

/-- Fields in debug notation, comma-separated. -/
def jsonDebugFields : List (String × Json) → String
  | [] => ""
  | [(k, v)] => Text.literal k ++ ": " ++ jsonDebug v
  | (k, v) :: rest => Text.literal k ++ ": " ++ jsonDebug v ++ ", " ++ jsonDebugFields rest
end

mutual
/-- A value in debug notation. -/
def valueDebug : Value → String
  | .null => "Null"
  | .bool b => "Bool(" ++ toString b ++ ")"
  | .number x => "Number(" ++ Binary64.render .debug x ++ ")"
  | .string s => "String(" ++ Text.literal s ++ ")"
  | .bytes data => "Bytes([" ++ ", ".intercalate (data.map fun b => toString b.toNat) ++ "])"
  | .json j => "Json(" ++ jsonDebug j ++ ")"
  | .array items => "Array([" ++ valueDebugList items ++ "])"
  | .object fields => "Object(\x7b" ++ valueDebugFields fields ++ "\x7d)"

/-- Values in debug notation, comma-separated. -/
def valueDebugList : List Value → String
  | [] => ""
  | [v] => valueDebug v
  | v :: rest => valueDebug v ++ ", " ++ valueDebugList rest

/-- Fields in debug notation, comma-separated. -/
def valueDebugFields : List (String × Value) → String
  | [] => ""
  | [(k, v)] => Text.literal k ++ ": " ++ valueDebug v
  | (k, v) :: rest => Text.literal k ++ ": " ++ valueDebug v ++ ", " ++ valueDebugFields rest
end

/-- A list of values in debug notation. -/
def debugList (vs : List Value) : String := "[" ++ valueDebugList vs ++ "]"

/-- Validates a builder into a fresh instance. -/
def instantiate (b : Graph.Builder) : Except FlowError Instance :=
  match b.build with
  | .ok g => .ok (Instance.new g)
  | .error e => .error (.workflow e)

/-- Two counters passing a number back and forth until one reaches 10. -/
def pingPong : Except FlowError Instance :=
  let ping := Nodes.incrementer "ping" 1 (some 10)
  let pong := Nodes.incrementer "pong" 1 (some 10)
  instantiate (({ Graph.Builder.new ping with name := "ping-pong" }.addEdge ping pong).addEdge pong ping)

/-- Polls a background run every `interval` milliseconds until it is over, showing its events;
returns them with the time of the last poll. Before each poll the task has taken every step due
and, if its run has ended, returned. `fuel` bounds the number of polls. -/
def pollToIdle (interval : Nat) (inst : Instance) (h : Background) (now : Nat) :
    Nat → Action (Instance × Background × List Event × Nat)
  | 0 => pure (inst, h, [], now)
  | fuel + 1 => do
    let (inst, h) := Background.advanceTo inst h now
    let h := h.complete
    let idle := h.isIdle
    let (events, h) := h.poll
    for e in events do showEvent e
    if idle then pure (inst, h, events, now)
    else
      let (inst, h, more, now) ← pollToIdle interval inst h (nextPoll now interval h) fuel
      pure (inst, h, events ++ more, now)

/-- The `polling` demonstration; `fuel` bounds its polls. -/
def pollingDemo (fuel : Nat) : Action Unit := do
  say "=== Background run with polling ==="
  let inst ← attempt pingPong
  let (inst, h) ← attempt (Background.start inst { message := some (Nodes.number 0) } 0)
  let (inst, _, events, _) ← pollToIdle 10 inst h 0 fuel
  say ("Outputs: " ++ debugList (events.filterMap Event.asOutput?))
  say ("Final state: " ++ inst.runState.name)

/-- Shows polled events, approving every request at once; counts the runs started. -/
def approveAll (inst : Instance) : List Event → Nat → Action (List (String × Message) × Nat)
  | [], starts => pure ([], starts)
  | e :: rest, starts => do
    showEvent e
    match e with
    | .started .. => approveAll inst rest (starts + 1)
    | .requestInfo rid .. =>
      say ("  → approving " ++ rid ++ " while the run is " ++ inst.runState.name)
      let (answers, starts) ← approveAll inst rest starts
      pure ((rid, (Nodes.Approval.mk true none).toMessage) :: answers, starts)
    | _ => approveAll inst rest starts

/-- Polls every 5 ms, approving requests as they show; returns the instance and the number of
runs started. -/
def respondRounds (inst : Instance) (h : Background) (now starts : Nat) :
    Nat → Action (Instance × Nat)
  | 0 => pure (inst, starts)
  | fuel + 1 => do
    let (inst, h) := Background.advanceTo inst h now
    let h := h.complete
    let idle := h.isIdle
    let (events, h) := h.poll
    let (answers, starts) ← approveAll inst events starts
    if !answers.isEmpty then
      let (inst, h) ← attempt (Background.respond inst h answers now)
      respondRounds inst h now starts fuel
    else if idle then pure (inst, starts)
    else respondRounds inst h (nextPoll now 5 h) starts fuel

/-- The `respond` demonstration; `fuel` bounds its polls. -/
def respondDemo (fuel : Nat) : Action Unit := do
  say "=== Responding while the run is still in flight ==="
  let dispatch := Nodes.logger "dispatch" [Nodes.numberKind] false
  let hotDelay := Nodes.delayer "hot_delay" 20 [Nodes.numberKind]
  let hotCount := Nodes.incrementer "hot_count" 1 (some 20)
  let gate := Nodes.approver "gate" "Let the cold path through?" [Nodes.numberKind]
  let b := { Graph.Builder.new dispatch with name := "hot-and-cold" }
  let b := ((b.fanOut dispatch [hotDelay, gate]).addEdge hotDelay hotCount).addEdge hotCount hotDelay
  let inst ← attempt (instantiate b)
  let (inst, h) ← attempt (Background.start inst { message := some (Nodes.number 0) } 0)
  let (inst, starts) ← respondRounds inst h 0 0 fuel
  say ("Runs started: " ++ toString starts)
  say ("Final state: " ++ inst.runState.name)

/-- The `errors` demonstration; `fuel` bounds the polls of each run. -/
def errorsDemo (fuel : Nat) : Action Unit := do
  say "=== Failure handling and reuse ==="
  let validate := Nodes.validator "validate" 1
  let upper := Nodes.upperCaser "upper"
  let reverse := Nodes.reverser "reverse"
  let b := { Graph.Builder.new validate with name := "validated-text" }
  let inst ← attempt (instantiate ((b.addEdge validate upper).addEdge upper reverse))
  let (inst, h) ← attempt (Background.start inst { message := some (Nodes.text "   ") } 0)
  let (inst, _, events, now) ← pollToIdle 5 inst h 0 fuel
  let failed := events.any fun e => e.failure?.isSome
  say ("Failure observed: " ++ toString failed ++ ", state " ++ inst.runState.name)
  let inst ← match Background.start inst { message := some (Nodes.text "again") } now with
    | .ok (inst, h) => do
      let (inst, _, _, _) ← pollToIdle 5 inst h now fuel
      pure inst
    | .error e => do
      say ("Unexpected rejection: " ++ e.message)
      pure inst
  say ("Final state after reuse: " ++ inst.runState.name)
  let (inst, _) ← attempt (Background.start inst { message := some (Nodes.text "one") } now)
  match Background.start inst { message := some (Nodes.text "two") } now with
  | .error e => say ("Second concurrent run rejected: " ++ e.message)
  | .ok _ => pure ()

/-- The `ping-pong` demonstration. -/
def pingPongDemo : Action Unit := do
  say "=== Synchronous ping-pong ==="
  let inst ← attempt pingPong
  let (_, result) ← attempt (inst.run { message := some (Nodes.number 0) })
  for e in result.events do showEvent e
  say ("Outputs: " ++ debugList (result.events.filterMap Event.asOutput?))
  if result.finalState != .idle then say ("Unexpected final state: " ++ result.finalState.name)

end Cli

end Superstep
