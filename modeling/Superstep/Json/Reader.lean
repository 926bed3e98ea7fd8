import Superstep.Json.Error

/-!
# Reading JSON text

A `Cursor` is the text still to read and the place of its first character. Each reading function
takes a cursor and returns what it read with the cursor after it, or an error placed in the text.
Two places matter for errors: the current place (`Cursor.fail`), and the place one byte further,
just past the character looked at but not read (`Cursor.failNext`).

Numbers are read as the engine's JSON reader reads them. A whole number stays an integer when it
fits an unsigned 64-bit word, or a signed one when negative; `-0` is the double `-0.0`. Any other
number is a double, computed from at most nineteen or twenty significant digits (later digits
only move the exponent) as the double of the digits, multiplied or divided by the double nearest
to the power of ten (`Json.scaleDecimal`); a result too large for a double is an error.

`Json.parse` reads a whole document; `Cursor.skipValue` passes over a value checking only its
syntax, as a reader does for a field it does not know. Nesting deeper than 127 containers is an
error of `readValue`, not of `skipValue`.
-/

namespace Superstep

namespace Pos

/-- The first place of a text. -/
def first : Pos := ⟨1, 0⟩

/-- The place after a character. -/
def advance (p : Pos) (c : Char) : Pos :=
  if c = '\n' then ⟨p.line + 1, 0⟩ else ⟨p.line, p.col + c.utf8Size⟩

/-- The place after a run of characters. -/
def advanceAll (p : Pos) (cs : List Char) : Pos := cs.foldl advance p

end Pos

/-- The text still to read, and the place of its first character. -/
structure Cursor where
  rest : List Char
  pos : Pos
  deriving Inhabited

/-- What a reading step returns: the value read and the cursor after it, or an error. -/
abbrev ReadResult (α : Type) := Except Located (α × Cursor)

namespace Cursor

/-- A cursor at the start of a text. -/
def start (s : String) : Cursor := ⟨s.toList, Pos.first⟩

/-- The next character, not read. -/
def peek (c : Cursor) : Option Char := c.rest.head?

/-- The cursor after reading one character. -/
def bump (c : Cursor) : Cursor :=
  match c.rest with
  | [] => c
  | ch :: r => ⟨r, c.pos.advance ch⟩

/-- The place one byte past the current one, or the current one at the end of the text. -/
def nextPos (c : Cursor) : Pos :=
  match c.rest with
  | [] => c.pos
  | '\n' :: _ => ⟨c.pos.line + 1, 0⟩
  | _ :: _ => ⟨c.pos.line, c.pos.col + 1⟩

/-- A syntax error at the current place. -/
def fail (c : Cursor) (e : SyntaxError) : Except Located α := .error ⟨.malformed e, some c.pos⟩

/-- A syntax error one byte past the current place. -/
def failNext (c : Cursor) (e : SyntaxError) : Except Located α := .error ⟨.malformed e, some c.nextPos⟩

/-- The JSON blanks: space, line feed, tab and carriage return. -/
def isBlank (ch : Char) : Bool := ch = ' ' || ch = '\n' || ch = '\t' || ch = '\r'

/-- The cursor after any blanks. -/
def skipBlank (c : Cursor) : Cursor := go c.rest c.pos
where
  go : List Char → Pos → Cursor
    | ch :: r, p => if isBlank ch then go r (p.advance ch) else ⟨ch :: r, p⟩
    | [], p => ⟨[], p⟩

/-- The cursor at the end of the text. -/
def toEnd (c : Cursor) : Cursor := ⟨[], c.pos.advanceAll c.rest⟩

/-- Reads the rest of a word whose first letter was read: `ull` of `null`, and so on. -/
def expectWord : List Char → Cursor → Except Located Cursor
  | [], c => .ok c
  | w :: ws, c =>
    match c.rest with
    | [] => c.fail .eofValue
    | ch :: _ => if ch = w then expectWord ws c.bump else c.bump.fail .expectedIdent

/-! ## Strings -/

/-- The value of a hexadecimal digit. -/
def hexValue (ch : Char) : Option Nat :=
  if '0' ≤ ch ∧ ch ≤ '9' then some (ch.toNat - 48)
  else if 'a' ≤ ch ∧ ch ≤ 'f' then some (ch.toNat - 87)
  else if 'A' ≤ ch ∧ ch ≤ 'F' then some (ch.toNat - 55)
  else none

/-- The value of four hexadecimal digits. -/
def quadValue : List Char → Option Nat
  | [a, b, c, d] => do
    let a ← hexValue a; let b ← hexValue b; let c ← hexValue c; let d ← hexValue d
    pure (((a * 16 + b) * 16 + c) * 16 + d)
  | _ => none

/-- The characters that make up the next four bytes, the text after them and the place after
them; a character cut by the fourth byte ends the group, and the place counts only its bytes up
to the fourth. `none` when fewer than four bytes are left. -/
def takeFourBytes : List Char → Pos → Nat → List Char → Option (List Char × List Char × Pos)
  | cs, p, 4, acc => some (acc.reverse, cs, p)
  | [], _, _, _ => none
  | ch :: r, p, n, acc =>
    if n + ch.utf8Size ≤ 4 then takeFourBytes r (p.advance ch) (n + ch.utf8Size) (ch :: acc)
    else some ((ch :: acc).reverse, r, ⟨p.line, p.col + (4 - n)⟩)
termination_by cs => cs.length

/-- Reads the four hexadecimal digits of a `\u` escape. -/
def readHexQuad (c : Cursor) : ReadResult Nat :=
  match takeFourBytes c.rest c.pos 0 [] with
  | none => c.toEnd.fail .eofString
  | some (digits, r, p) =>
    match quadValue digits with
    | some n => .ok (n, ⟨r, p⟩)
    | none => (Cursor.mk r p).fail .invalidEscape

/-- Reads the code of a `\u` escape whose `\u` was read, pairing a leading surrogate with the
trailing one that must follow it. -/
def readUnicodeEscape (c : Cursor) : Except Located (Char × Cursor) := do
  let (n, c) ← readHexQuad c
  if 0xDC00 ≤ n ∧ n ≤ 0xDFFF then c.fail .loneLeadingSurrogate
  else if n < 0xD800 ∨ 0xDBFF < n then pure (Char.ofNat n, c)
  else
    match c.rest with
    | [] => c.fail .eofString
    | '\\' :: _ =>
      let c := c.bump
      match c.rest with
      | [] => c.fail .eofString
      | 'u' :: _ =>
        let (m, c) ← readHexQuad c.bump
        if m < 0xDC00 ∨ 0xDFFF < m then c.fail .loneLeadingSurrogate
        else pure (Char.ofNat (0x10000 + (n - 0xD800) * 0x400 + (m - 0xDC00)), c)
      | _ :: _ => c.failNext .unexpectedEndOfHexEscape
    | _ :: _ => c.failNext .unexpectedEndOfHexEscape

/-- The character a one-letter escape stands for. -/
def shortEscape (ch : Char) : Option Char :=
  if ch = '"' ∨ ch = '\\' ∨ ch = '/' then some ch
  else if ch = 'b' then some (Char.ofNat 8)
  else if ch = 'f' then some (Char.ofNat 12)
  else if ch = 'n' then some '\n'
  else if ch = 'r' then some '\r'
  else if ch = 't' then some '\t'
  else none

/-- Reads the body of a string whose opening quote was read, through the closing quote. With
`check` false the `\u` escapes are only checked for four hexadecimal digits and the result is
empty: the string is being passed over. -/
def readStringBody (check : Bool) : Nat → Cursor → List Char → ReadResult String
  | 0, c, _ => c.toEnd.fail .eofString
  | fuel + 1, c, acc =>
    match c.rest with
    | [] => c.fail .eofString
    | '"' :: _ => .ok (String.ofList acc.reverse, c.bump)
    | '\\' :: _ =>
      let c := c.bump
      match c.rest with
      | [] => c.fail .eofString
      | e :: _ =>
        let c := c.bump
        match shortEscape e with
        | some ch => readStringBody check fuel c (ch :: acc)
        | none =>
          if e = 'u' then
            if check then
              match readUnicodeEscape c with
              | .ok (ch, c) => readStringBody check fuel c (ch :: acc)
              | .error err => .error err
            else
              match readHexQuad c with
              | .ok (_, c) => readStringBody check fuel c acc
              | .error err => .error err
          else c.fail .invalidEscape
    | ch :: _ =>
      if ch.toNat < 0x20 then c.bump.fail .controlCharacter
      else readStringBody check fuel c.bump (if check then ch :: acc else acc)

/-- Reads a string whose opening quote was read. -/
def readString (c : Cursor) : ReadResult String := readStringBody true (c.rest.length + 1) c []

/-- Passes over a string whose opening quote was read. -/
def skipString (c : Cursor) : Except Located Cursor :=
  (readStringBody false (c.rest.length + 1) c []).map (·.2)

end Cursor

/-! ## Numbers -/

namespace Json

/-- The greatest value of an unsigned 64-bit word. -/
def u64Limit : Nat := Nat.pow 2 64 - 1

/-- The greatest value of a signed 32-bit word. -/
def i32Limit : Nat := Nat.pow 2 31 - 1

/-- Whether appending digit `d` to `a` would pass `limit`. -/
def passesLimit (a d limit : Nat) : Bool :=
  limit / 10 ≤ a && (limit / 10 < a || limit % 10 < d)

/-- An exponent held in a signed 32-bit word, which stops at its ends instead of wrapping. -/
def clampExponent (e : Int) : Int := max (-(Int.pow 2 31)) (min (Int.pow 2 31 - 1) e)

/-- The double of `sig · 10^exp`: the double of `sig`, multiplied by the double of `10^exp` or
divided by the double of `10^-exp`, dividing first by `1e308` as often as needed when `-exp` is
larger than 308. `none` when the product is too large for a double. -/
def scaleDecimal (sig : Nat) (exp : Int) : Option Binary64 :=
  go (Binary64.ofNat sig) exp 8
where
  go (f : Binary64) (e : Int) : Nat → Option Binary64
    | 0 => some f
    | fuel + 1 =>
      if e.natAbs ≤ 308 then
        let p := Binary64.ofNat (Nat.pow 10 e.natAbs)
        if 0 ≤ e then
          let g := f.mul p
          if g.isInfinite then none else some g
        else some (f.div p)
      else if f.isZero then some f
      else if 0 ≤ e then none
      else go (f.div (Binary64.ofNat (Nat.pow 10 308))) (e + 308) fuel

/-- A digit character's value. -/
def digitValue? (ch : Char) : Option Nat :=
  if '0' ≤ ch ∧ ch ≤ '9' then some (ch.toNat - 48) else none

/-- The cursor past the run of digits at its start. -/
def skipDigits (c : Cursor) : Cursor := go c.rest c.pos
where
  go : List Char → Pos → Cursor
    | ch :: r, p => if (digitValue? ch).isSome then go r (p.advance ch) else ⟨ch :: r, p⟩
    | [], p => ⟨[], p⟩

/-- The signed double of a magnitude, or the out-of-range error at the cursor. -/
def signedScale (positive : Bool) (sig : Nat) (exp : Int) (c : Cursor) : ReadResult JsonNumber :=
  match scaleDecimal sig exp with
  | some f => .ok (.float (if positive then f else f.negate), c)
  | none => c.fail .numberOutOfRange

/-- Reads the digits of an exponent after the first one, stopping with an error or a zero when
the exponent passes the 32-bit limit. -/
def readExponentDigits (positive zeroSig positiveExp : Bool) (sig : Nat) (startExp : Int) :
    Nat → Nat → Cursor → ReadResult JsonNumber
  | 0, _, c => c.fail .numberOutOfRange
  | fuel + 1, acc, c =>
    match c.rest with
    | ch :: _ =>
      match digitValue? ch with
      | some d =>
        let c := c.bump
        if passesLimit acc d i32Limit then
          if !zeroSig && positiveExp then c.fail .numberOutOfRange
          else
            let z := Binary64.zero
            .ok (.float (if positive then z else z.negate), skipDigits c)
        else readExponentDigits positive zeroSig positiveExp sig startExp fuel (acc * 10 + d) c
      | none => finish acc c
    | [] => finish acc c
where
  finish (acc : Nat) (c : Cursor) : ReadResult JsonNumber :=
    let e := clampExponent (if positiveExp then startExp + acc else startExp - acc)
    signedScale positive sig e c

/-- Reads an exponent whose `e` is next. -/
def readExponent (positive : Bool) (sig : Nat) (startExp : Int) (c : Cursor) :
    ReadResult JsonNumber :=
  let c := c.bump
  let (positiveExp, c) :=
    match c.rest with
    | '+' :: _ => (true, c.bump)
    | '-' :: _ => (false, c.bump)
    | _ => (true, c)
  match c.rest with
  | [] => c.fail .eofValue
  | ch :: _ =>
    let c := c.bump
    match digitValue? ch with
    | none => c.fail .invalidNumber
    | some d => readExponentDigits positive (sig == 0) positiveExp sig startExp (c.rest.length + 1) d c

/-- After the significant digits: an exponent or the end of the number. -/
def finishFraction (positive : Bool) (sig : Nat) (exp : Int) (c : Cursor) : ReadResult JsonNumber :=
  match c.rest with
  | 'e' :: _ | 'E' :: _ => readExponent positive sig exp c
  | _ => signedScale positive sig exp c

/-- Reads the digits after a decimal point; `scale` counts them so far. -/
def readFractionDigits (positive : Bool) (before : Int) :
    Nat → Nat → Int → Cursor → ReadResult JsonNumber
  | 0, _, _, c => c.fail .invalidNumber
  | fuel + 1, sig, scale, c =>
    match c.rest.head?.bind digitValue? with
    | some d =>
      if passesLimit sig d u64Limit then
        -- further digits no longer change the significand
        finishFraction positive sig (before + scale) (skipDigits c)
      else readFractionDigits positive before fuel (sig * 10 + d) (scale - 1) c.bump
    | none =>
      if scale = 0 then
        match c.rest with
        | [] => c.failNext .eofValue
        | _ :: _ => c.failNext .invalidNumber
      else finishFraction positive sig (before + scale) c

/-- Reads a fraction whose decimal point is next. -/
def readFraction (positive : Bool) (sig : Nat) (before : Int) (c : Cursor) : ReadResult JsonNumber :=
  readFractionDigits positive before (c.rest.length + 1) sig 0 c.bump

/-- Reads the rest of an integer part too long for 64 bits: each further digit multiplies by ten. -/
def readLongInteger (positive : Bool) (sig : Nat) : Nat → Int → Cursor → ReadResult JsonNumber
  | 0, exp, c => signedScale positive sig exp c
  | fuel + 1, exp, c =>
    match c.rest with
    | '.' :: _ => readFraction positive sig exp c
    | 'e' :: _ | 'E' :: _ => readExponent positive sig exp c
    | ch :: _ =>
      if (digitValue? ch).isSome then readLongInteger positive sig fuel (exp + 1) c.bump
      else signedScale positive sig exp c
    | [] => signedScale positive sig exp c

/-- After an integer part that fits 64 bits: a fraction, an exponent, or a whole number. -/
def finishInteger (positive : Bool) (sig : Nat) (c : Cursor) : ReadResult JsonNumber :=
  match c.rest with
  | '.' :: _ => readFraction positive sig 0 c
  | 'e' :: _ | 'E' :: _ => readExponent positive sig 0 c
  | _ =>
    if positive then .ok (.int sig, c)
    else if 0 < sig ∧ sig ≤ Nat.pow 2 63 then .ok (.int (-(sig : Int)), c)
    else .ok (.float (Binary64.ofNat sig).negate, c)

/-- Reads the digits of an integer part after its first digit. -/
def readIntegerDigits (positive : Bool) : Nat → Nat → Cursor → ReadResult JsonNumber
  | 0, sig, c => finishInteger positive sig c
  | fuel + 1, sig, c =>
    match c.rest.head?.bind digitValue? with
    | some d =>
      if passesLimit sig d u64Limit then readLongInteger positive sig (c.rest.length + 1) 0 c
      else readIntegerDigits positive fuel (sig * 10 + d) c.bump
    | none => finishInteger positive sig c

/-- Reads a number whose sign, if any, was read. -/
def readNumber (positive : Bool) (c : Cursor) : ReadResult JsonNumber :=
  match c.rest with
  | [] => c.fail .eofValue
  | ch :: _ =>
    let c := c.bump
    match digitValue? ch with
    | some 0 =>
      match c.rest.head?.bind digitValue? with
      | some _ => c.failNext .invalidNumber
      | none => finishInteger positive 0 c
    | some d => readIntegerDigits positive (c.rest.length + 1) d c
    | none => c.fail .invalidNumber

/-- Passes over the digits of an exponent whose `e` is next. -/
def skipExponent (c : Cursor) : Except Located Cursor :=
  let c := c.bump
  let c := match c.rest with
    | '+' :: _ | '-' :: _ => c.bump
    | _ => c
  match c.rest.head?.bind digitValue? with
  | some _ => .ok (skipDigits c.bump)
  | none => c.bump.fail .invalidNumber

/-- Passes over a number whose sign, if any, was read, checking only its syntax. -/
def skipNumber (c : Cursor) : Except Located Cursor := do
  let c ← match c.rest with
    | '0' :: _ =>
      let c := c.bump
      match c.rest.head?.bind digitValue? with
      | some _ => c.failNext .invalidNumber
      | none => pure c
    | ch :: _ =>
      if (digitValue? ch).isSome then pure (skipDigits c.bump) else c.bump.fail .invalidNumber
    | [] => c.fail .invalidNumber
  match c.rest with
  | '.' :: _ =>
    let c := c.bump
    match c.rest.head?.bind digitValue? with
    | none => c.failNext .invalidNumber
    | some _ =>
      let c := skipDigits c
      match c.rest with
      | 'e' :: _ | 'E' :: _ => skipExponent c
      | _ => pure c
  | 'e' :: _ | 'E' :: _ => skipExponent c
  | _ => pure c

end Json

/-! ## Values -/

namespace Cursor

/-- Reads the colon after an object key. -/
def readColon (c : Cursor) : Except Located Cursor :=
  let c := c.skipBlank
  match c.rest with
  | ':' :: _ => .ok c.bump
  | _ :: _ => c.failNext .expectedColon
  | [] => c.failNext .eofObject

/-- Reads the closing bracket of an array whose items were all read. -/
def closeArray (c : Cursor) : Except Located Cursor :=
  let c := c.skipBlank
  match c.rest with
  | ']' :: _ => .ok c.bump
  | ',' :: _ =>
    let c := c.bump.skipBlank
    match c.rest with
    | ']' :: _ => c.failNext .trailingComma
    | _ => c.failNext .trailingCharacters
  | _ :: _ => c.failNext .trailingCharacters
  | [] => c.failNext .eofList

/-- Reads the closing brace of an object whose fields were all read. -/
def closeObject (c : Cursor) : Except Located Cursor :=
  let c := c.skipBlank
  match c.rest with
  | '}' :: _ => .ok c.bump
  | ',' :: _ => c.failNext .trailingComma
  | _ :: _ => c.failNext .trailingCharacters
  | [] => c.failNext .eofObject

/-- Whether another array item follows: `none` at the closing bracket (not read); otherwise the
cursor at the item, past a separating comma. `first` tells whether an item was read before. -/
def nextItem (first : Bool) (c : Cursor) : Except Located (Option Cursor) :=
  let c := c.skipBlank
  match c.rest with
  | [] => c.failNext .eofList
  | ']' :: _ => .ok none
  | ch :: _ =>
    if first then .ok (some c)
    else if ch = ',' then
      let c := c.bump.skipBlank
      match c.rest with
      | ']' :: _ => c.failNext .trailingComma
      | [] => c.failNext .eofValue
      | _ :: _ => .ok (some c)
    else c.failNext .expectedListCommaOrEnd

/-- Whether another object field follows: `none` at the closing brace (not read); otherwise the
cursor at the key's opening quote, past a separating comma. -/
def nextKey (first : Bool) (c : Cursor) : Except Located (Option Cursor) :=
  let c := c.skipBlank
  match c.rest with
  | [] => c.failNext .eofObject
  | '}' :: _ => .ok none
  | ch :: _ =>
    if first then
      if ch = '"' then .ok (some c) else c.failNext .keyMustBeString
    else if ch = ',' then
      let c := c.bump.skipBlank
      match c.rest with
      | '"' :: _ => .ok (some c)
      | '}' :: _ => c.failNext .trailingComma
      | _ :: _ => c.failNext .keyMustBeString
      | [] => c.failNext .eofValue
    else c.failNext .expectedObjectCommaOrEnd

mutual
/-- Reads any JSON value. `depth` is how many more containers may open inside the current one
plus one; `fuel` bounds the work and is never the reason to stop for a budget of twice the
text's length. -/
def readValue (depth : Nat) : Nat → Cursor → Except Located (Json × Cursor)
  | 0, c => c.fail .recursionLimit
  | fuel + 1, c =>
    let c := c.skipBlank
    match c.rest with
    | [] => c.failNext .eofValue
    | ch :: _ =>
      if ch = 'n' then (c.bump.expectWord ['u', 'l', 'l']).map (Json.null, ·)
      else if ch = 't' then (c.bump.expectWord ['r', 'u', 'e']).map (Json.bool true, ·)
      else if ch = 'f' then (c.bump.expectWord ['a', 'l', 's', 'e']).map (Json.bool false, ·)
      else if ch = '-' then (Json.readNumber false c.bump).map fun (n, c) => (Json.number n, c)
      else if (Json.digitValue? ch).isSome then
        (Json.readNumber true c).map fun (n, c) => (Json.number n, c)
      else if ch = '"' then c.bump.readString.map fun (s, c) => (Json.string s, c)
      else if ch = '[' then
        if depth ≤ 1 then c.failNext .recursionLimit
        else do
          let (items, c) ← readItems (depth - 1) fuel true [] c.bump
          let c ← c.closeArray
          pure (Json.array items, c)
      else if ch = '{' then
        if depth ≤ 1 then c.failNext .recursionLimit
        else do
          let (fields, c) ← readFields (depth - 1) fuel true [] c.bump
          let c ← c.closeObject
          pure (Json.object fields, c)
      else c.failNext .expectedValue

/-- Reads the items of an array up to its closing bracket (not read). -/
def readItems (depth : Nat) : Nat → Bool → List Json → Cursor → ReadResult (List Json)
  | 0, _, _, c => c.fail .recursionLimit
  | fuel + 1, first, acc, c =>
    match c.nextItem first with
    | .error e => .error e
    | .ok none => .ok (acc.reverse, c.skipBlank)
    | .ok (some c) =>
      match readValue depth fuel c with
      | .error e => .error e
      | .ok (v, c) => readItems depth fuel false (v :: acc) c

/-- Reads the fields of an object up to its closing brace (not read); a repeated key keeps the
later value, and the keys come out sorted. -/
def readFields (depth : Nat) : Nat → Bool → List (String × Json) → Cursor →
    ReadResult (List (String × Json))
  | 0, _, _, c => c.fail .recursionLimit
  | fuel + 1, first, acc, c =>
    match c.nextKey first with
    | .error e => .error e
    | .ok none => .ok (acc, c.skipBlank)
    | .ok (some c) =>
      match c.bump.readString with
      | .error e => .error e
      | .ok (k, c) =>
        match c.readColon with
        | .error e => .error e
        | .ok c =>
          match readValue depth fuel c with
          | .error e => .error e
          | .ok (v, c) => readFields depth fuel false (Json.insertSorted k v acc) c
end

/-- The error for text after a complete document, if there is any. -/
def readEnd (c : Cursor) : Except Located Unit :=
  let c := c.skipBlank
  match c.rest with
  | [] => .ok ()
  | _ :: _ => c.failNext .trailingCharacters

/-- The work budget for reading a text: two steps per character suffice. -/
def budget (c : Cursor) : Nat := 2 * c.rest.length + 2

/-- Passes over the rest of the containers on `stack` (innermost first), after a value inside
the innermost one was read. -/
def skipAfterValue : Nat → List Char → Bool → Cursor → Except Located (Option (List Char × Cursor))
  | 0, _, _, c => c.fail .recursionLimit
  | fuel + 1, stack, acceptComma, c =>
    match stack with
    | [] => .ok none
    | frame :: outer =>
      let c := c.skipBlank
      match c.rest with
      | [] => c.failNext (if frame = '[' then .eofList else .eofObject)
      | ch :: _ =>
        if ch = ',' ∧ acceptComma then .ok (some (stack, c.bump))
        else if (ch = ']' ∧ frame = '[') ∨ (ch = '}' ∧ frame = '{') then
          skipAfterValue fuel outer true c.bump
        else if acceptComma then
          c.failNext (if frame = '[' then .expectedListCommaOrEnd else .expectedObjectCommaOrEnd)
        else .ok (some (stack, c))

/-- Passes over the key and colon of an object field, when the innermost container is an
object. -/
def skipKey (stack : List Char) (c : Cursor) : Except Located Cursor :=
  match stack with
  | '{' :: _ =>
    let c := c.skipBlank
    match c.rest with
    | '"' :: _ => do
      let c ← c.bump.skipString
      let c := c.skipBlank
      match c.rest with
      | ':' :: _ => pure c.bump
      | _ :: _ => c.failNext .expectedColon
      | [] => c.failNext .eofObject
    | _ :: _ => c.failNext .keyMustBeString
    | [] => c.failNext .eofValue
  | _ => .ok c

/-- Passes over one value, checking only its syntax, with `stack` the containers opened around
it while passing over. -/
def skipLoop : Nat → List Char → Cursor → Except Located Cursor
  | 0, _, c => c.fail .recursionLimit
  | fuel + 1, stack, c => do
    let c := c.skipBlank
    match c.rest with
    | [] => c.failNext .eofValue
    | ch :: _ =>
      let opened : Except Located (Option Char × Cursor) :=
        if ch = 'n' then (c.bump.expectWord ['u', 'l', 'l']).map (none, ·)
        else if ch = 't' then (c.bump.expectWord ['r', 'u', 'e']).map (none, ·)
        else if ch = 'f' then (c.bump.expectWord ['a', 'l', 's', 'e']).map (none, ·)
        else if ch = '-' then (Json.skipNumber c.bump).map (none, ·)
        else if (Json.digitValue? ch).isSome then (Json.skipNumber c).map (none, ·)
        else if ch = '"' then c.bump.skipString.map (none, ·)
        else if ch = '[' ∨ ch = '{' then .ok (some ch, c.bump)
        else c.failNext .expectedValue
      let (frame, c) ← opened
      let next ← match frame with
        | some f => skipAfterValue fuel (f :: stack) false c
        | none => skipAfterValue fuel stack true c
      match next with
      | none => pure c.skipBlank
      | some (stack, c) => skipLoop fuel stack (← skipKey stack c)

/-- Passes over one value, checking only its syntax. -/
def skipValue (c : Cursor) : Except Located Cursor := skipLoop c.budget [] c

end Cursor

namespace Json

/-- Reads a whole JSON document. -/
def parse (s : String) : Except Located Json := do
  let c := Cursor.start s
  let (v, c) ← Cursor.readValue 128 c.budget c
  c.readEnd
  pure v

end Json

end Superstep
