import Superstep.Cli.Help
import Superstep.Cli.Similar

/-!
# Reading a command line

`Program.parse` reads the words after the program's name. The first word names a command (or
asks for help); the command's words are read left to right:

* `--name` and `--name=value` name a parameter by its long name, `-abc` names flags by their
  short names and may end in an option with its value attached (`-fwf.json`, `-f=wf.json`);
* a word after an option that still wants its value is that value, whatever it looks like,
  unless it looks like a parameter;
* other words are values by position, and everything after `--` is: an option still waiting
  for its value then gets none.

A parameter's value is checked when the next parameter is named or the line ends, so of two
problems the one found first in that order is reported; a short name that the command does not
have is reported at once, before the value waiting to be checked. Help asked for before any problem
is found wins over problems further right. After the whole line, missing required
parameters are reported; otherwise every parameter gets its value, its default or none.

Without any word, the program's help is the answer, as an error.
-/

namespace Superstep

namespace Cli

/-- What a command line asks for. -/
inductive Parsed where
  /-- Run a command with the values of its parameters, by id: flags are `"true"` or
  `"false"`, a parameter without value or default is absent. -/
  | command (name : String) (values : List (String × String))
  /-- Print this help and stop. -/
  | help (text : String)
  /-- Print this text on standard error and stop with status 2. -/
  | refused (text : String)
  deriving Inhabited

/-- Why reading a command's words stopped early. -/
inductive Stop where
  | help (long : Bool)
  | error (e : UsageError)

/-- Reading a command's words: the parameters given so far with their values, in the order
they were taken; the parameter whose values are still to be checked, and whether it still
wants its value; the next position; and whether `--` was read. -/
structure Scan where
  given : List (String × List String) := []
  pending : Option (Param × List String) := none
  awaiting : Bool := false
  position : Nat := 0
  escaped : Bool := false

/-- Reads a 64-bit unsigned number, or says why not. -/
def readCount (v : String) : Except String Nat :=
  if v.isEmpty then .error "cannot parse integer from empty string"
  else
    let digits := if v.startsWith "+" then (v.drop 1).toString else v
    if digits.isEmpty || !digits.all Char.isDigit then .error "invalid digit found in string"
    else
      match digits.toNat? with
      | some n => if n < Nat.pow 2 64 then .ok n else .error "number too large to fit in target type"
      | none => .error "invalid digit found in string"

namespace Scan

/-- The ids of the parameters given so far. -/
def named (st : Scan) : List String := st.given.map (·.1)

/-- Checks one value of a parameter. -/
def checkValue (p : Param) (v : String) : Except Stop Unit :=
  match p.check with
  | .text => .ok ()
  | .path => if v.isEmpty then .error (.error (.missingValue p.display [])) else .ok ()
  | .count =>
    match readCount v with
    | .ok _ => .ok ()
    | .error why => .error (.error (.badNumber p.display v why))
  | .oneOf cs =>
    let names := cs.map (·.1)
    if names.contains v then .ok ()
    else .error (.error (.invalidValue p.display v names (mostSimilar? v names)))

/-- Takes a parameter with its values: a parameter that wants a value must have one, none may be
given twice, and each value must pass its check. A parameter given twice is refused before its
values are checked; one whose values fail counts as given. -/
def take (prog : String) (c : Command) (st : Scan) (p : Param) (values : List String) :
    Except Stop Scan :=
  if p.takesValue && values.isEmpty then .error (.error (.missingValue p.display p.choiceNames))
  else if !p.isPositional && st.named.contains p.id then
    .error (.error (.repeated p.display (c.usage prog [])))
  else do
    values.forM fun v => checkValue p v
    pure { st with given := st.given ++ [(p.id, values)] }

/-- Checks the pending parameter, if any. -/
def settle (prog : String) (c : Command) (st : Scan) : Except Stop Scan :=
  match st.pending with
  | none => .ok st
  | some (p, values) => take prog c { st with pending := none, awaiting := false } p values

/-- Settles the pending parameter before an error is reported, ignoring its own problems but
keeping it as given when it got so far as to have its values checked. A parameter given twice
is dropped altogether: it is refused after its first occurrence was taken back. -/
def settleQuietly (st : Scan) : Scan :=
  let st' := { st with pending := none, awaiting := false }
  match st.pending with
  | some (p, values) =>
    if p.takesValue && values.isEmpty then st'
    else if !p.isPositional && st.named.contains p.id then
      { st' with given := st.given.filter (·.1 != p.id) }
    else { st' with given := st.given ++ [(p.id, values)] }
  | none => st'

end Scan

/-- Splits `name=value`. -/
def splitAttached (body : String) : String × Option String :=
  match body.splitOn "=" with
  | [] => (body, none)
  | [name] => (name, none)
  | name :: rest => (name, some ("=".intercalate rest))

/-- Reads a cluster of short flags, the last of which may be an option with its value. -/
def readShorts (prog : String) (c : Command) : List Char → Scan → Except Stop Scan
  | [], st => .ok st
  | ch :: rest, st =>
    match c.findShort ch with
    | none =>
      .error (.error (.unknownArgument ("-" ++ ch.toString) none none
        (!c.positionals.isEmpty && !st.escaped) (c.usage prog [])))
    | some p =>
      if p.takesValue then do
        let st ← st.settle prog c
        if rest.isEmpty then pure { st with pending := some (p, []), awaiting := true }
        else
          let v := if rest.head? == some '=' then rest.tail else rest
          st.take prog c p [String.ofList v]
      else do
        let st ← st.settle prog c
        if p.showsHelp then throw (.help false)
        let st ← st.take prog c p []
        readShorts prog c rest st

/-- Reads a `--name` or `--name=value` word. -/
def readLong (prog : String) (c : Command) (body : String) (st : Scan) : Except Stop Scan :=
  let (name, attached) := splitAttached body
  match c.findLong name with
  | some p =>
    if p.takesValue then do
      let st ← st.settle prog c
      match attached with
      | some v => st.take prog c p [v]
      | none => pure { st with pending := some (p, []), awaiting := true }
    else
      match attached with
      | some v => .error (.error (.unexpectedValue v p.display (c.usage prog (st.named ++ [p.id]))))
      | none => do
        let st ← st.settle prog c
        if p.showsHelp then throw (.help true)
        st.take prog c p []
  | none =>
    let st := st.settleQuietly
    let similar := mostSimilar? name c.longs
    let alsoNamed := match similar.bind fun s => c.findLong s with
      | some p => [p.id]
      | none => []
    .error (.error (.unknownArgument ("--" ++ name) (similar.map ("--" ++ ·)) none
      (similar.isNone && !c.positionals.isEmpty) (c.usage prog (st.named ++ alsoNamed))))

/-- Reads a word that is a value. -/
def readValue (prog : String) (c : Command) (word : String) (st : Scan) : Except Stop Scan :=
  match st.pending, st.awaiting && !st.escaped with
  | some (p, _), true => .ok { st with pending := some (p, [word]), awaiting := false }
  | _, _ =>
    match c.positionals[st.position]? with
    | some p => do
      let st ← st.settle prog c
      pure { st with pending := some (p, [word]), position := st.position + 1 }
    | none =>
      .error (.error (.unknownArgument word none none false (c.usage prog [])))

/-- Reads a command's words. -/
def readWords (prog : String) (c : Command) : List String → Scan → Except Stop Scan
  | [], st => .ok st
  | w :: rest, st => do
    let st ←
      if st.escaped then readValue prog c w st
      else if w == "--" then pure { st with escaped := true }
      else if w.startsWith "--" then readLong prog c (w.drop 2).toString st
      else if w.startsWith "-" && w.length > 1 then readShorts prog c (w.drop 1).toString.toList st
      else readValue prog c w st
    readWords prog c rest st

/-- The values of a command's parameters once its words are read. -/
def finish (prog : String) (c : Command) (st : Scan) : Except Stop (List (String × String)) := do
  let st ← st.settle prog c
  let missing := c.params.filter fun p => p.required && !st.named.contains p.id
  if !missing.isEmpty then
    let shown := (missing.filter (!·.isPositional)) ++ (missing.filter (·.isPositional))
    throw (.error (.missingRequired (shown.map (·.display))
      (c.usage prog (st.named ++ missing.map (·.id)))))
  pure (c.params.filterMap fun p =>
    match st.given.find? (·.1 == p.id), p.takes with
    | some (_, v :: _), _ => some (p.id, v)
    | some _, .flag => some (p.id, "true")
    | none, .flag => if p.showsHelp then none else some (p.id, "false")
    | _, _ => p.default.map (p.id, ·))

namespace Program

/-- The answer to a reading of a command's words that stopped early. -/
def stopped (prog : Program) (c : Command) : Stop → Parsed
  | .help long => .help (c.helpText prog.name long)
  | .error e => .refused e.text

/-- The help asked for by `help` followed by command names. -/
def helpFor (prog : Program) : List String → Parsed
  | [] => .help prog.helpText
  | name :: rest =>
    match prog.allCommands.find? (·.name == name) with
    | none => .refused (UsageError.unknownCommand name [] prog.usage).text
    | some c =>
      match rest with
      | [] => .help (c.helpText prog.name true)
      | other :: _ => .refused (UsageError.unknownCommand other [] (c.usage prog.name [])).text

/-- The most similar long name among the commands named later on the line, for a long name
the program itself does not have. -/
def elsewhere (prog : Program) (name : String) (later : List String) : Option String :=
  let found := prog.commands.filterMap fun c =>
    match mostSimilar? name c.longs, later.idxOf? c.name with
    | some l, some i => some (i, c.name ++ " --" ++ l)
    | _, _ => none
  let best := found.foldl (fun acc x => match acc with
    | some a => if x.1 < a.1 then some x else some a
    | none => some x) none
  best.map (·.2)

/-- Reads the words of a command line, after the program's name. -/
def parse (prog : Program) : List String → Parsed
  | [] => .refused prog.helpText
  | w :: rest =>
    if w == "help" then prog.helpFor rest
    else
      match prog.commands.find? (·.name == w) with
      | some c =>
        match (readWords prog.name c rest {}).bind (finish prog.name c) with
        | .ok values => .command c.name values
        | .error s => prog.stopped c s
      | none =>
        if w == "--" then
          let names := prog.allCommands.map (·.name)
          match rest with
          | [] => .refused prog.helpText
          | v :: _ =>
            if names.contains v then .refused (UsageError.escapedCommand v prog.usage).text
            else .refused (UsageError.unknownCommand v (similarWords v names) prog.usage).text
        else if w.startsWith "--" then
          let (name, attached) := splitAttached (w.drop 2).toString
          if name == "help" then
            match attached with
            | some v => .refused (UsageError.unexpectedValue v "--help" (prog.name ++ " --help <COMMAND>")).text
            | none => .help prog.helpText
          else
            let similar := mostSimilar? name ["help"]
            let usage := if similar.isSome then prog.name ++ " --help <COMMAND>" else prog.usage
            .refused (UsageError.unknownArgument ("--" ++ name) (similar.map ("--" ++ ·))
              (if similar.isSome then none else prog.elsewhere name rest) false usage).text
        else if w.startsWith "-" && w.length > 1 then
          match (w.drop 1).toString.toList with
          | 'h' :: _ => .help prog.helpText
          | ch :: _ => .refused (UsageError.unknownArgument ("-" ++ ch.toString) none none false prog.usage).text
          | [] => .help prog.helpText
        else
          let names := prog.allCommands.map (·.name)
          .refused (UsageError.unknownCommand w (similarWords w names) prog.usage).text

end Program

end Cli

end Superstep
