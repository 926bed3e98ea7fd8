/-!
# Command-line grammar

A `Program` has commands; a `Command` has parameters. A parameter is a flag (`-b`,
`--background`), an option with one value (`-f FILE`, `--file=FILE`), or a value by position.
This module holds the grammar, the one-line usage of a command, and the wording of every way a
command line can be wrong (`UsageError`). Help texts are in `Cli.Help`, the reading of a
command line in `Cli.Parse`.

Every error text ends with the hint to try `--help`. An error that names what was expected shows
a usage line: when nothing was named yet the full usage, with `[OPTIONS]` when the command has
optional options; otherwise the required parameters and those named so far.
-/

namespace Superstep

namespace Cli

/-- What a parameter takes from the command line. -/
inductive Takes where
  /-- Nothing: it is there or not. -/
  | flag
  /-- The next word, or the text after `=`, shown as `<valueName>`. -/
  | option (valueName : String)
  /-- A word by position, shown as `<valueName>`. -/
  | positional (valueName : String)
  deriving DecidableEq, Inhabited

/-- How the value of a parameter is checked. -/
inductive Check where
  | text
  /-- Any text but the empty one. -/
  | path
  /-- A 64-bit unsigned number. -/
  | count
  /-- One of the listed words, each with its help. -/
  | oneOf (choices : List (String × String))
  deriving Inhabited

/-- A parameter of a command. -/
structure Param where
  id : String
  short : Option Char := none
  long : Option String := none
  takes : Takes
  help : String
  /-- The help shown by the long help, when it differs. -/
  longHelp : Option String := none
  required : Bool := false
  /-- Whether a positional parameter takes every remaining word. -/
  repeated : Bool := false
  default : Option String := none
  check : Check := .text
  /-- Whether the parameter asks for help instead of naming a value. -/
  showsHelp : Bool := false
  deriving Inhabited

/-- A command: its name, what it does, and its parameters in the order they are shown. -/
structure Command where
  name : String
  about : String
  params : List Param
  deriving Inhabited

/-- A program: its name, what it does, and its commands. -/
structure Program where
  name : String
  about : String
  commands : List Command

namespace Param

/-- Whether the parameter is a value by position. -/
def isPositional (p : Param) : Bool :=
  match p.takes with
  | .positional _ => true
  | _ => false

/-- Whether the parameter takes a value. -/
def takesValue (p : Param) : Bool :=
  match p.takes with
  | .flag => false
  | _ => true

/-- The words a value may be, when they are listed. -/
def choiceNames (p : Param) : List String :=
  match p.check with
  | .oneOf cs => cs.map (·.1)
  | _ => []

/-- Whether the listed words of the parameter come with help of their own. -/
def hasChoiceHelp (p : Param) : Bool :=
  match p.check with
  | .oneOf cs => cs.any fun c => !c.2.isEmpty
  | _ => false

/-- How the parameter is named in usage lines and errors: `--file <FILE>`, `--background`,
`<NAME>`, or `[COMMAND]...` for an optional repeated one. -/
def display (p : Param) : String :=
  let name := match p.long, p.short with
    | some l, _ => "--" ++ l
    | none, some c => "-" ++ c.toString
    | none, none => ""
  match p.takes with
  | .flag => name
  | .option v => name ++ " <" ++ v ++ ">"
  | .positional v =>
    (if p.required then "<" ++ v ++ ">" else "[" ++ v ++ "]") ++ (if p.repeated then "..." else "")

/-- The help parameter, `-h` and `--help`, for a command whose long help differs from the
short one or not. -/
def helpFlag (differs : Bool) : Param :=
  { id := "help", short := some 'h', long := some "help", takes := .flag,
    help := if differs then "Print help (see more with '--help')" else "Print help",
    longHelp := if differs then some "Print help (see a summary with '-h')" else none,
    showsHelp := true }

end Param

namespace Command

/-- The parameter with a long name. -/
def findLong (c : Command) (name : String) : Option Param := c.params.find? (·.long == some name)

/-- The parameter with a short name. -/
def findShort (c : Command) (ch : Char) : Option Param := c.params.find? (·.short == some ch)

/-- The positional parameters, in order. -/
def positionals (c : Command) : List Param := c.params.filter (·.isPositional)

/-- The long names, in order. -/
def longs (c : Command) : List String := c.params.filterMap (·.long)

/-- Whether a listing of possible values with their help makes the long help differ. -/
def hasLongHelp (c : Command) : Bool := c.params.any (·.hasChoiceHelp)

/-- A command with the help parameter after its own. -/
def withHelp (name about : String) (params : List Param) : Command :=
  { name, about, params := params ++ [Param.helpFlag (params.any (·.hasChoiceHelp))] }

/-- Whether the usage line shows `[OPTIONS]`: some option or flag is neither required nor the
help flag. -/
def needsOptions (c : Command) : Bool :=
  c.params.any fun p => !p.isPositional && !p.required && !p.showsHelp

/-- Adds the strings not yet in a list, in order. -/
def addNew (acc : List String) (xs : List String) : List String :=
  xs.foldl (fun acc x => if acc.contains x then acc else acc ++ [x]) acc

/-- The usage line of a command of program `prog`, given the parameters named so far (by id).
With none named: every required option, `[OPTIONS]` before them when there are optional ones,
and every positional parameter. Otherwise: the required parameters and those named, options
first, positional ones after in their order. -/
def usage (prog : String) (c : Command) (named : List String) : String :=
  let head := prog ++ " " ++ c.name
  if named.isEmpty then
    let opts := (c.params.filter fun p => p.required && !p.isPositional).map (·.display)
    let poss := c.positionals.map (·.display)
    head ++ (if c.needsOptions then " [OPTIONS]" else "") ++
      String.join ((opts ++ poss).map (" " ++ ·))
  else
    let ids := addNew ((c.params.filter (·.required)).map (·.id)) named
    let chosen := ids.filterMap fun i => c.params.find? (·.id == i)
    let opts := addNew [] ((chosen.filter fun p => !p.isPositional).map (·.display))
    let poss := (c.positionals.filter fun p => ids.contains p.id).map (·.display)
    head ++ String.join ((opts ++ poss).map (" " ++ ·))

end Command

/-! ## Errors -/

/-- A command line that cannot be read. -/
inductive UsageError where
  /-- Required parameters were not given. -/
  | missingRequired (missing : List String) (usage : String)
  /-- A value was required but none (or an empty one) was given. -/
  | missingValue (arg : String) (choices : List String)
  /-- A value is not one of the listed words. -/
  | invalidValue (arg value : String) (choices : List String) (similar : Option String)
  /-- A value could not be read as a number. -/
  | badNumber (arg value reason : String)
  /-- A word is no parameter of the command; a similar one may exist, here or in a command
  named later on the line, and the word may be meant as a value. -/
  | unknownArgument (arg : String) (similar : Option String) (elsewhere : Option String)
      (asValue : Bool) (usage : String)
  /-- A word is no command of the program. -/
  | unknownCommand (name : String) (similar : List String) (usage : String)
  /-- A parameter was given twice. -/
  | repeated (arg : String) (usage : String)
  /-- A flag was given a value. -/
  | unexpectedValue (value arg : String) (usage : String)
  /-- A command name was written after `--`, where it can only be a value. -/
  | escapedCommand (name : String) (usage : String)
  deriving Inhabited

namespace UsageError

/-- The closing hint of every error. -/
def hint : String := "\n\nFor more information, try '--help'."

/-- The listing of the possible values, on its own line. -/
def valueList (choices : List String) : String :=
  if choices.isEmpty then ""
  else "\n  [possible values: " ++ ", ".intercalate choices ++ "]"

/-- The usage part of an error. -/
def usageLine (usage : String) : String := "\n\nUsage: " ++ usage

/-- The text of an error, as written to standard error. -/
def text : UsageError → String
  | .missingRequired missing usage =>
    "error: the following required arguments were not provided:" ++
      String.join (missing.map ("\n  " ++ ·)) ++ usageLine usage ++ hint
  | .missingValue arg choices =>
    "error: a value is required for '" ++ arg ++ "' but none was supplied" ++ valueList choices ++ hint
  | .invalidValue arg value choices similar =>
    let opening := if value.isEmpty then "error: a value is required for '" ++ arg ++ "' but none was supplied"
      else "error: invalid value '" ++ value ++ "' for '" ++ arg ++ "'"
    let tip := match similar with
      | some s => "\n\n  tip: a similar value exists: '" ++ s ++ "'"
      | none => ""
    opening ++ valueList choices ++ tip ++ hint
  | .badNumber arg value reason =>
    "error: invalid value '" ++ value ++ "' for '" ++ arg ++ "': " ++ reason ++ hint
  | .unknownArgument arg similar elsewhere asValue usage =>
    let first := match similar with
      | some s => "\n\n  tip: a similar argument exists: '" ++ s ++ "'"
      | none => ""
    let others := (if asValue then ["to pass '" ++ arg ++ "' as a value, use '-- " ++ arg ++ "'"] else []) ++
      (match elsewhere with
        | some e => ["'" ++ e ++ "' exists"]
        | none => [])
    let rest := if others.isEmpty then ""
      else (if similar.isSome then "" else "\n") ++ String.join (others.map ("\n  tip: " ++ ·))
    "error: unexpected argument '" ++ arg ++ "' found" ++ first ++ rest ++ usageLine usage ++ hint
  | .unknownCommand name similar usage =>
    let tip := match similar with
      | [] => ""
      | [s] => "\n\n  tip: a similar subcommand exists: '" ++ s ++ "'"
      | ss => "\n\n  tip: some similar subcommands exist: " ++ ", ".intercalate (ss.map fun s => "'" ++ s ++ "'")
    "error: unrecognized subcommand '" ++ name ++ "'" ++ tip ++ usageLine usage ++ hint
  | .repeated arg usage =>
    "error: the argument '" ++ arg ++ "' cannot be used multiple times" ++ usageLine usage ++ hint
  | .unexpectedValue value arg usage =>
    "error: unexpected value '" ++ value ++ "' for '" ++ arg ++ "' found; no more were expected" ++
      usageLine usage ++ hint
  | .escapedCommand name usage =>
    "error: unexpected argument '--' found\n\n  tip: subcommand '" ++ name ++
      "' exists; to use it, remove the '--' before it" ++ usageLine usage ++ hint

end UsageError

end Cli

end Superstep
