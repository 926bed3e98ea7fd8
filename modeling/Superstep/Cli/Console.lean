/-!
# Console programs

A command-line program talks to the world in four ways: it writes lines to standard output or
standard error, reads lines from standard input, and reads and writes files. `Console α` is such
a program as an interaction tree: each node makes one request and continues with the answer,
and a leaf holds the result. Programs are built with `do` notation; what they do is given by an
interpreter, so the same program runs against the real system or against a `Session` held in
memory (`Console.simulate`).

Reading a file or a line is answered with the text or with the system's wording of why not.
-/

namespace Superstep

namespace Cli

/-- Where a line of text goes. -/
inductive Channel where
  | out
  | err
  deriving DecidableEq, Inhabited

/-- A program that writes lines, reads lines, and reads and writes files. -/
inductive Console (α : Type) where
  | done (result : α)
  | say (channel : Channel) (line : String) (next : Console α)
  | readLine (k : Option String → Console α)
  | readFile (path : String) (k : Except String String → Console α)
  | writeFile (path text : String) (k : Except String Unit → Console α)

namespace Console

/-- Runs a program, then the program its result selects. -/
def bind {α β : Type} : Console α → (α → Console β) → Console β
  | .done a, f => f a
  | .say c line next, f => .say c line (bind next f)
  | .readLine k, f => .readLine fun l => bind (k l) f
  | .readFile p k, f => .readFile p fun r => bind (k r) f
  | .writeFile p t k, f => .writeFile p t fun r => bind (k r) f

instance : Monad Console where
  pure := .done
  bind := bind

/-- Writes a line to standard output. -/
def print (line : String) : Console Unit := .say .out line (.done ())

/-- Writes a line to standard error. -/
def printErr (line : String) : Console Unit := .say .err line (.done ())

/-- Reads a line of standard input without its line ending; `none` at the end of the input. -/
def getLine : Console (Option String) := .readLine .done

/-- Reads a whole file. -/
def load (path : String) : Console (Except String String) := .readFile path .done

/-- Writes a whole file. -/
def store (path text : String) : Console (Except String Unit) := .writeFile path text .done

/-! ## Running in memory -/

/-- The system's wording of a missing file or directory. -/
def notFound : String := "No such file or directory (os error 2)"

/-- The system's wording of a directory where a file was expected. -/
def isDirectory : String := "Is a directory (os error 21)"

/-- A working directory and the streams of a program, held in memory. The directory holds
plain files only, by name. -/
structure Session where
  input : List String
  files : List (String × String) := []
  out : List String := []
  err : List String := []

/-- The name of a file in the working directory a path stands for: `none` for the directory
itself, and for paths through a directory (none exists but the working one). -/
def Session.fileName (path : String) : Option String :=
  let parts := (path.splitOn "/").filter (· != ".")
  match parts with
  | [name] => if name == "" || name == ".." then none else some name
  | _ => none

/-- Whether a path names a directory. -/
def Session.isDirectoryPath (path : String) : Bool :=
  let parts := (path.splitOn "/").filter (fun p => p != "." && p != "")
  parts.isEmpty || parts == [".."]

/-- Runs a program against a session, returning its result and the session after it. -/
def simulate {α : Type} : Console α → Session → α × Session
  | .done a, s => (a, s)
  | .say .out line next, s => simulate next { s with out := s.out ++ [line] }
  | .say .err line next, s => simulate next { s with err := s.err ++ [line] }
  | .readLine k, s =>
    match s.input with
    | [] => simulate (k none) s
    | l :: rest => simulate (k (some l)) { s with input := rest }
  | .readFile p k, s =>
    let answer : Except String String :=
      if Session.isDirectoryPath p then .error isDirectory
      else
        match (Session.fileName p).bind fun n => (s.files.find? (·.1 == n)).map (·.2) with
        | some text => .ok text
        | none => .error notFound
    simulate (k answer) s
  | .writeFile p t k, s =>
    if Session.isDirectoryPath p then simulate (k (.error isDirectory)) s
    else
      match Session.fileName p with
      | some n =>
        let files := if s.files.any (·.1 == n) then s.files.map fun (m, old) => (m, if m == n then t else old)
          else s.files ++ [(n, t)]
        simulate (k (.ok ())) { s with files }
      | none => simulate (k (.error notFound)) s

/-- The lines of a text as a program reads them: split at line feeds, a carriage return before
a line feed dropped, and no empty line after a final line feed. -/
def linesOf (text : String) : List String :=
  let parts := text.splitOn "\n"
  let parts := if parts.getLast? == some "" then parts.dropLast else parts
  parts.map fun l => if l.endsWith "\r" then (l.dropEnd 1).toString else l

end Console

end Cli

end Superstep
