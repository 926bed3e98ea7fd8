import Superstep.Text.Printable

/-!
# Strings as quoted literals

`Text.literal` writes a string between double quotes the way diagnostics show text: the quote
and the backslash are escaped, tab, carriage return, line feed and NUL get their short escapes,
and a character that would not show on its own (one that extends the grapheme before it, or
one that is not printable) is written `\u{hex}` with lower-case hex digits and no leading
zeros. Every other character, the single quote included, stands as itself.
-/

namespace Superstep

namespace Text

/-- The lower-case hexadecimal digits of a number, without leading zeros. -/
def hexDigits (n : Nat) : String :=
  String.ofList (Nat.toDigits 16 n)

/-- One character inside a quoted literal. -/
def literalChar (c : Char) : String :=
  if c.toNat = 0 then "\\0"
  else if c = '\t' then "\\t"
  else if c = '\r' then "\\r"
  else if c = '\n' then "\\n"
  else if c = '\\' then "\\\\"
  else if c = '"' then "\\\""
  else if isGraphemeExtend c || !isPrintable c then "\\u" ++ "\x7b" ++ hexDigits c.toNat ++ "\x7d"
  else String.singleton c

/-- A string between double quotes, with escapes for characters that would not show. -/
def literal (s : String) : String :=
  "\"" ++ String.join (s.toList.map literalChar) ++ "\""

end Text

end Superstep
