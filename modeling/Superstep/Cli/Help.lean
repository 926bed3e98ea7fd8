import Superstep.Cli.Args

/-!
# Help texts

The help of a command is its description, its usage line, and a section for its positional
parameters (`Arguments:`) and one for the others (`Options:`); the help of the program lists its
commands (`Commands:`) first.

Each section is a table: the parameter, then its help and, in brackets, its default and its
possible values. Help is aligned in a column two blanks after the widest parameter, unless the
column sits so far right (past 40 of 100 columns) that some help would not fit in the rest of
the line; then every help goes on the next line, indented by ten blanks. The long help
(`--help`) differs from the short one (`-h`) only for a command whose possible values have help
of their own: it lists them one per line with their help, always puts help on the next line,
and leaves a blank line between parameters.
-/

namespace Superstep

namespace Cli

/-- The width of the terminal the help is laid out for. -/
def termWidth : Nat := 100

/-- A run of blanks. -/
def blanks (n : Nat) : String := String.ofList (List.replicate n ' ')

/-- Writes a value in brackets as the help shows it: quoted when it holds a blank. -/
def shownValue (v : String) : String :=
  if v.any Char.isWhitespace then "\"" ++ v ++ "\"" else v

namespace Param

/-- The bracketed notes after a parameter's help: its default, and its possible values unless the
long help lists them. -/
def notes (p : Param) (long : Bool) : List String :=
  let dflt := match p.default with
    | some v => ["[default: " ++ shownValue v ++ "]"]
    | none => []
  let values := if long && p.hasChoiceHelp then []
    else if p.choiceNames.isEmpty then []
    else ["[possible values: " ++ ", ".intercalate p.choiceNames ++ "]"]
  dflt ++ values

/-- The help of a parameter with its notes. -/
def fullHelp (p : Param) (long : Bool) : String :=
  let help := if long then p.longHelp.getD p.help else p.help
  let notes := (if long then "\n" else " ").intercalate (p.notes long)
  if notes.isEmpty then help
  else if help.isEmpty then notes
  else help ++ (if long then "\n\n" else " ") ++ notes

/-- The name column of a parameter: `-f, --file <FILE>`, `    --poll-interval-ms <MS>`, or
`<NAME>`. -/
def column (p : Param) : String :=
  let short := match p.short with
    | some c => "-" ++ c.toString
    | none => if p.long.isSome then "    " else ""
  let long := match p.long with
    | some l => (if p.short.isSome then ", " else "") ++ "--" ++ l
    | none => ""
  match p.takes with
  | .flag => short ++ long
  | .option v => short ++ long ++ " <" ++ v ++ ">"
  | .positional _ => p.display

/-- How far right the help column starts, for a section whose widest parameter is `widest`. -/
def helpStart (p : Param) (widest : Nat) : Nat :=
  if p.isPositional then widest + 4 else widest + 8

/-- Whether a parameter's help would not fit beside the name column. -/
def crowded (p : Param) (widest : Nat) (long : Bool) : Bool :=
  let taken := p.helpStart widest
  let width := p.help.length + (" ".intercalate (p.notes long)).length
  termWidth ≥ taken && 10 * taken > 4 * termWidth && width + taken > termWidth

/-- The listing of possible values with their help, indented by `indent`. -/
def choiceListing (p : Param) (indent : Nat) : String :=
  match p.check with
  | .oneOf cs =>
    let widest := (cs.map (·.1.length)).foldl max 0
    "Possible values:" ++ String.join (cs.map fun (name, help) =>
      "\n" ++ blanks indent ++ "- " ++ name ++
        (if help.isEmpty then "" else ": " ++ blanks (widest - name.length) ++ help))
  | _ => ""

/-- The lines of one parameter in a section. -/
def entry (p : Param) (widest : Nat) (nextLine long : Bool) : String :=
  let head := "  " ++ p.column
  let help := p.fullHelp long
  let listing := if long && p.hasChoiceHelp then p.choiceListing 10 else ""
  if nextLine then
    let indented := help.replace "\n" ("\n" ++ blanks 10)
    let body := if listing.isEmpty then indented
      else if indented.isEmpty then listing
      else indented ++ "\n\n" ++ blanks 10 ++ listing
    head ++ "\n" ++ blanks 10 ++ body
  else
    let pad := if p.isPositional || p.long.isSome then widest + 2 - p.display.length
      else widest + 6 - p.display.length
    let indent := p.helpStart widest
    head ++ blanks pad ++ help.replace "\n" ("\n" ++ blanks indent)

end Param

/-- A section of parameters under a heading. -/
def table (heading : String) (params : List Param) (long : Bool) : String :=
  let widest := (params.map (·.display.length)).foldl max 2
  let nextLine := long || params.any (·.crowded widest long)
  let sep := if nextLine && long then "\n\n" else "\n"
  heading ++ ":\n" ++ sep.intercalate (params.map (·.entry widest nextLine long))

namespace Command

/-- The help of a command of program `prog`; `long` asks for the long help. -/
def helpText (prog : String) (c : Command) (long : Bool) : String :=
  let long := long && c.hasLongHelp
  let poss := c.positionals
  let opts := c.params.filter fun p => !p.isPositional
  let sections := (if poss.isEmpty then [] else [table "Arguments" poss long]) ++
    (if opts.isEmpty then [] else [table "Options" opts long])
  c.about ++ "\n\nUsage: " ++ c.usage prog [] ++
    (if sections.isEmpty then "" else "\n\n" ++ "\n\n".intercalate sections)

end Command

namespace Program

/-- The commands whose help to print. -/
def helpTopics : Param :=
  { id := "command", takes := .positional "COMMAND", repeated := true,
    help := "Print help for the subcommand(s)" }

/-- The command that prints help. -/
def helpCommand : Command :=
  ⟨"help", "Print this message or the help of the given subcommand(s)", [helpTopics]⟩

/-- The commands, the help command last. -/
def allCommands (p : Program) : List Command := p.commands ++ [helpCommand]

/-- The usage line of the program. -/
def usage (p : Program) : String := p.name ++ " <COMMAND>"

/-- The help of the program. -/
def helpText (p : Program) : String :=
  let cmds := p.allCommands
  let widest := (cmds.map (·.name.length)).foldl max 2
  let listing := "\n".intercalate (cmds.map fun c =>
    "  " ++ c.name ++ blanks (widest + 2 - c.name.length) ++ c.about)
  p.about ++ "\n\nUsage: " ++ p.usage ++ "\n\nCommands:\n" ++ listing ++ "\n\n" ++
    table "Options" [Param.helpFlag false] false

end Program

end Cli

end Superstep
