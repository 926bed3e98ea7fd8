import Superstep.Json.Basic
import Superstep.Binary64.Text
import Superstep.Text.Literal

/-!
# Errors of reading JSON

Reading JSON text or decoding a JSON value into a typed record can fail for two kinds of cause:
the text is not JSON (`SyntaxError`), or the value is JSON of the wrong shape (the other
constructors of `DecodeError`). A shape error names what was found (`Unexpected`) and what was
expected, in words. `DecodeError.message` gives the one wording of each cause; `Located` adds the
line and column where a text reader stopped.
-/

namespace Superstep

/-- Why a text is not JSON. -/
inductive SyntaxError where
  | eofList
  | eofObject
  | eofString
  | eofValue
  | expectedColon
  | expectedListCommaOrEnd
  | expectedObjectCommaOrEnd
  | expectedIdent
  | expectedValue
  | invalidEscape
  | invalidNumber
  | numberOutOfRange
  | controlCharacter
  | keyMustBeString
  | loneLeadingSurrogate
  | trailingComma
  | trailingCharacters
  | unexpectedEndOfHexEscape
  | recursionLimit
  deriving DecidableEq, Inhabited

namespace SyntaxError

/-- The wording of a syntax error. -/
def message : SyntaxError → String
  | .eofList => "EOF while parsing a list"
  | .eofObject => "EOF while parsing an object"
  | .eofString => "EOF while parsing a string"
  | .eofValue => "EOF while parsing a value"
  | .expectedColon => "expected `:`"
  | .expectedListCommaOrEnd => "expected `,` or `]`"
  | .expectedObjectCommaOrEnd => "expected `,` or `\x7d`"
  | .expectedIdent => "expected ident"
  | .expectedValue => "expected value"
  | .invalidEscape => "invalid escape"
  | .invalidNumber => "invalid number"
  | .numberOutOfRange => "number out of range"
  | .controlCharacter => "control character (\\u0000-\\u001F) found while parsing a string"
  | .keyMustBeString => "key must be a string"
  | .loneLeadingSurrogate => "lone leading surrogate in hex escape"
  | .trailingComma => "trailing comma"
  | .trailingCharacters => "trailing characters"
  | .unexpectedEndOfHexEscape => "unexpected end of hex escape"
  | .recursionLimit => "recursion limit exceeded"

end SyntaxError

/-- What a decoder found where it expected something else. -/
inductive Unexpected where
  | bool (b : Bool)
  | unsigned (n : Nat)
  | signed (i : Int)
  | float (x : Binary64)
  | str (s : String)
  | unit
  | seq
  | map
  deriving Inhabited

namespace Unexpected

/-- How a found value is named in an error. A float is written as JSON text writes it, with
`.0` when integral and with the exponent's sign (`1000.0`, `1.8446744073709552e+19`). -/
def describe : Unexpected → String
  | .bool b => "boolean `" ++ toString b ++ "`"
  | .unsigned n => "integer `" ++ toString n ++ "`"
  | .signed i => "integer `" ++ toString i ++ "`"
  | .float x => "floating point `" ++ Binary64.render .json x ++ "`"
  | .str s => "string " ++ Text.literal s
  | .unit => "null"
  | .seq => "sequence"
  | .map => "map"

example : describe (.float (Binary64.ofNat 18446744073709551615)) =
    "floating point `1.8446744073709552e+19`" := by decide

/-- What a JSON value is, for an error. -/
def ofJson : Json → Unexpected
  | .null => .unit
  | .bool b => .bool b
  | .number (.int i) => if 0 ≤ i then .unsigned i.toNat else .signed i
  | .number (.float x) => .float x
  | .string s => .str s
  | .array _ => .seq
  | .object _ => .map

end Unexpected

/-- Why a JSON text or value could not be read as the expected data. -/
inductive DecodeError where
  | malformed (e : SyntaxError)
  | invalidType (found : Unexpected) (expected : String)
  | invalidValue (found : Unexpected) (expected : String)
  | invalidLength (length : Nat) (expected : String)
  | unknownVariant (name : String) (variants : List String)
  | missingField (name : String)
  | duplicateField (name : String)
  | custom (message : String)
  deriving Inhabited

namespace DecodeError

/-- Names in back-quotes: one, two joined by `or`, more as `one of` a list. -/
def oneOf (names : List String) : String :=
  let q (n : String) := "`" ++ n ++ "`"
  match names with
  | [] => ""
  | [a] => q a
  | [a, b] => q a ++ " or " ++ q b
  | _ => "one of " ++ ", ".intercalate (names.map q)

/-- The wording of a decoding error. -/
def message : DecodeError → String
  | .malformed e => e.message
  | .invalidType found expected =>
    "invalid type: " ++ found.describe ++ ", expected " ++ expected
  | .invalidValue found expected =>
    "invalid value: " ++ found.describe ++ ", expected " ++ expected
  | .invalidLength n expected => "invalid length " ++ toString n ++ ", expected " ++ expected
  | .unknownVariant name [] => "unknown variant `" ++ name ++ "`, there are no variants"
  | .unknownVariant name variants =>
    "unknown variant `" ++ name ++ "`, expected " ++ oneOf variants
  | .missingField name => "missing field `" ++ name ++ "`"
  | .duplicateField name => "duplicate field `" ++ name ++ "`"
  | .custom m => m

end DecodeError

/-- A place in a text: the line, counted from one, and the column, counted in bytes since the
last line break. -/
structure Pos where
  line : Nat
  col : Nat
  deriving DecidableEq, Inhabited

/-- A decoding error, with the place in the text where the reader stopped if it read text. -/
structure Located where
  error : DecodeError
  pos : Option Pos := none
  deriving Inhabited

namespace Located

/-- The wording of the error, with its place when there is one. -/
def message (e : Located) : String :=
  match e.pos with
  | some p => e.error.message ++ " at line " ++ toString p.line ++ " column " ++ toString p.col
  | none => e.error.message

/-- The error placed at `p` unless it already has a place. -/
def placeAt (p : Pos) (e : Located) : Located :=
  match e.pos with
  | some _ => e
  | none => { e with pos := some p }

end Located

end Superstep
