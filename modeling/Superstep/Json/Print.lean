import Superstep.Json.Basic
import Superstep.Binary64.Text

/-!
# Writing JSON text

`Json.render` writes the compact form (no blanks), `Json.pretty` the indented form (two blanks
per level, `": "` after keys, empty containers as `[]` and `{}`). Fields are written in the
order the object holds them. Strings escape the quote, the backslash and every control
character below U+0020: the usual short escapes where JSON has one, `\u00xx` with lower-case
hex digits otherwise; everything else, non-ASCII included, is written as it is. Doubles use
`Binary64.Layout.json`; a double that is not finite is written `null`.
-/

namespace Superstep

/-- The text of a number. -/
def JsonNumber.render : JsonNumber → String
  | .int i => toString i
  | .float x => Binary64.render .json x

namespace Json

/-- The lower-case hexadecimal digit of a number below 16. -/
def hexDigit (n : Nat) : Char :=
  if n < 10 then Char.ofNat (48 + n) else Char.ofNat (87 + n)

/-- The escaped form of one character inside a JSON string. -/
def escapeChar (c : Char) : List Char :=
  if c = '"' then ['\\', '"']
  else if c = '\\' then ['\\', '\\']
  else if c = '\n' then ['\\', 'n']
  else if c = '\r' then ['\\', 'r']
  else if c = '\t' then ['\\', 't']
  else if c.toNat = 8 then ['\\', 'b']
  else if c.toNat = 12 then ['\\', 'f']
  else if c.toNat < 32 then ['\\', 'u', '0', '0', hexDigit (c.toNat / 16), hexDigit (c.toNat % 16)]
  else [c]

/-- A string as a JSON string literal. -/
def quote (s : String) : String :=
  String.ofList ('"' :: (s.toList.flatMap escapeChar ++ ['"']))

mutual
/-- The compact text of a value. -/
def render : Json → String
  | .null => "null"
  | .bool true => "true"
  | .bool false => "false"
  | .number n => n.render
  | .string s => quote s
  | .array items => "[" ++ renderList items ++ "]"
  | .object fields => "\x7b" ++ renderFields fields ++ "\x7d"

/-- The compact text of the items of an array, comma-separated. -/
def renderList : List Json → String
  | [] => ""
  | [j] => render j
  | j :: rest => render j ++ "," ++ renderList rest

/-- The compact text of the fields of an object, comma-separated. -/
def renderFields : List (String × Json) → String
  | [] => ""
  | [(k, v)] => quote k ++ ":" ++ render v
  | (k, v) :: rest => quote k ++ ":" ++ render v ++ "," ++ renderFields rest
end

/-- Two blanks per level of nesting. -/
def indent (level : Nat) : String := String.ofList (List.replicate (2 * level) ' ')

mutual
/-- The indented text of a value whose opening line is already at `level`. -/
def pretty (level : Nat) : Json → String
  | .array [] => "[]"
  | .object [] => "\x7b\x7d"
  | .array items => "[\n" ++ prettyList (level + 1) items ++ "\n" ++ indent level ++ "]"
  | .object fields => "\x7b\n" ++ prettyFields (level + 1) fields ++ "\n" ++ indent level ++ "\x7d"
  | j => render j

/-- The items of an array, one per line at `level`. -/
def prettyList (level : Nat) : List Json → String
  | [] => ""
  | [j] => indent level ++ pretty level j
  | j :: rest => indent level ++ pretty level j ++ ",\n" ++ prettyList level rest

/-- The fields of an object, one per line at `level`. -/
def prettyFields (level : Nat) : List (String × Json) → String
  | [] => ""
  | [(k, v)] => indent level ++ quote k ++ ": " ++ pretty level v
  | (k, v) :: rest =>
    indent level ++ quote k ++ ": " ++ pretty level v ++ ",\n" ++ prettyFields level rest
end

end Json

end Superstep
