import Superstep.Json.Reader
import Superstep.Wire.Shape

/-!
# Reading stored data from text

`Shape.readText` checks JSON text against a shape while reading it, as the engine's decoder
does: the first problem met in reading order is the one reported, syntax and shape alike, and
text after it is never looked at. It returns the same normal forms as `Shape.decode`.

Every error has a place. A syntax error is placed where the reader stopped; data of the wrong
kind is placed just after the offending token (at the bracket, for an array or object). A
problem only a record as a whole can see (a missing or repeated field, too few items) is placed
where the record's closing bracket was read.

Opening an array, object or record uses one level of a nesting budget of 128, as in
`Cursor.readValue`. Unknown fields of records are passed over with `Cursor.skipValue`.

Tagged values and enumerations never occur in stored text in this program; they are read as
plain JSON and then checked, with any problem placed after them.
-/

namespace Superstep

namespace Wire

namespace Shape

/-- An error placed at a cursor. -/
def placeAt (c : Cursor) (e : DecodeError) : Located := ⟨e, some c.pos⟩

/-- The unexpected data of a number. -/
def numberFound : JsonNumber → Unexpected
  | .int i => if 0 ≤ i then .unsigned i.toNat else .signed i
  | .float x => .float x

/-- The error for text that is not of the expected kind, read at the cursor (after blanks):
the token is read, and the error placed after it; an array or object is not read, and the
error placed at its bracket. -/
def wrongKind (c : Cursor) (expected : String) : Located :=
  let result : Except Located Located :=
    match c.rest with
    | 'n' :: _ => (c.bump.expectWord ['u', 'l', 'l']).map fun c => placeAt c (.invalidType .unit expected)
    | 't' :: _ =>
      (c.bump.expectWord ['r', 'u', 'e']).map fun c => placeAt c (.invalidType (.bool true) expected)
    | 'f' :: _ =>
      (c.bump.expectWord ['a', 'l', 's', 'e']).map fun c =>
        placeAt c (.invalidType (.bool false) expected)
    | '-' :: _ =>
      (Json.readNumber false c.bump).map fun (n, c) => placeAt c (.invalidType (numberFound n) expected)
    | '"' :: _ => c.bump.readString.map fun (s, c) => placeAt c (.invalidType (.str s) expected)
    | '[' :: _ => .ok (placeAt c (.invalidType .seq expected))
    | '{' :: _ => .ok (placeAt c (.invalidType .map expected))
    | ch :: _ =>
      if (Json.digitValue? ch).isSome then
        (Json.readNumber true c).map fun (n, c) => placeAt c (.invalidType (numberFound n) expected)
      else .error ⟨.malformed .expectedValue, some c.nextPos⟩
    | [] => .error ⟨.malformed .expectedValue, some c.nextPos⟩
  match result with
  | .ok e => e
  | .error e => e

/-- Reads a string. -/
def readStringText (c : Cursor) : Except Located (Json × Cursor) :=
  let c := c.skipBlank
  match c.rest with
  | [] => c.failNext .eofValue
  | '"' :: _ => c.bump.readString.map fun (s, c) => (.string s, c)
  | _ :: _ => .error (wrongKind c "a string")

/-- Reads a boolean. -/
def readBoolText (c : Cursor) : Except Located (Json × Cursor) :=
  let c := c.skipBlank
  match c.rest with
  | [] => c.failNext .eofValue
  | 't' :: _ => (c.bump.expectWord ['r', 'u', 'e']).map (Json.bool true, ·)
  | 'f' :: _ => (c.bump.expectWord ['a', 'l', 's', 'e']).map (Json.bool false, ·)
  | _ :: _ => .error (wrongKind c "a boolean")

/-- Reads a number and checks it with `accept`, placing its complaint after the number. -/
def readNumberText (expected : String) (accept : JsonNumber → Except DecodeError Json)
    (c : Cursor) : Except Located (Json × Cursor) :=
  let c := c.skipBlank
  let checked (r : Except Located (JsonNumber × Cursor)) : Except Located (Json × Cursor) := do
    let (n, c) ← r
    match accept n with
    | .ok j => pure (j, c)
    | .error e => throw (placeAt c e)
  match c.rest with
  | [] => c.failNext .eofValue
  | '-' :: _ => checked (Json.readNumber false c.bump)
  | ch :: _ =>
    if (Json.digitValue? ch).isSome then checked (Json.readNumber true c)
    else .error (wrongKind c expected)

/-- The check of an integer in `[0, max]`. -/
def acceptUnsigned (name : String) (max : Nat) : JsonNumber → Except DecodeError Json
  | .int i =>
    if i < 0 then .error (.invalidValue (.signed i) name)
    else if max < i.toNat then .error (.invalidValue (.unsigned i.toNat) name)
    else .ok (Json.int i)
  | .float x => .error (.invalidType (.float x) name)

/-- Where the closing bracket of an array leaves the reader, whether or not it is there. -/
def afterArray (c : Cursor) : Cursor :=
  let c := c.skipBlank
  match c.rest with
  | ']' :: _ => c.bump
  | ',' :: _ => c.bump.skipBlank
  | _ => c

/-- Where the closing brace of an object leaves the reader, whether or not it is there. -/
def afterObject (c : Cursor) : Cursor :=
  let c := c.skipBlank
  match c.rest with
  | '}' :: _ => c.bump
  | _ => c

/-- What reading the inside of a container gives: the data, or a problem of the container as a
whole, with where the reader stopped. -/
abbrev Inside := Except Located (Except DecodeError Json × Cursor)

/-- Reads a container whose opening bracket is `open`: the inside with `inside`, then the
closing bracket. A problem of the whole container is placed after the closing bracket. -/
def container (isArray : Bool) (expected : String) (depth : Nat)
    (inside : Nat → Cursor → Inside) (c : Cursor) : Except Located (Json × Cursor) :=
  let c := c.skipBlank
  let opening := if isArray then '[' else '{'
  match c.rest with
  | [] => c.failNext .eofValue
  | ch :: _ =>
    if ch != opening then .error (wrongKind c expected)
    else if depth ≤ 1 then c.failNext .recursionLimit
    else
      match inside (depth - 1) c.bump with
      | .error e => .error e
      | .ok (.error e, stopped) =>
        .error (placeAt (if isArray then afterArray stopped else afterObject stopped) e)
      | .ok (.ok j, stopped) =>
        match (if isArray then stopped.closeArray else stopped.closeObject) with
        | .ok c => .ok (j, c)
        | .error e => .error e

/-- A reader of data of some shape from text, given the nesting budget left. -/
abbrev TextReader := Nat → Cursor → Except Located (Json × Cursor)

/-- Reads the items of an array, each with `item`. -/
def readItemsText (item : TextReader) (depth : Nat) : Nat → Bool → List Json → Cursor → Inside
  | 0, _, _, c => c.fail .recursionLimit
  | fuel + 1, first, acc, c =>
    match c.nextItem first with
    | .error e => .error e
    | .ok none => .ok (.ok (.array acc.reverse), c.skipBlank)
    | .ok (some c) =>
      match item depth c with
      | .error e => .error e
      | .ok (v, c) => readItemsText item depth fuel false (v :: acc) c

/-- Reads the entries of an object, each value with `item`; a repeated key keeps the later
value. -/
def readEntriesText (item : TextReader) (depth : Nat) :
    Nat → Bool → List (String × Json) → Cursor → Inside
  | 0, _, _, c => c.fail .recursionLimit
  | fuel + 1, first, acc, c =>
    match c.nextKey first with
    | .error e => .error e
    | .ok none => .ok (.ok (.object acc), c.skipBlank)
    | .ok (some c) =>
      match c.bump.readString with
      | .error e => .error e
      | .ok (k, c) =>
        match c.readColon with
        | .error e => .error e
        | .ok c =>
          match item depth c with
          | .error e => .error e
          | .ok (v, c) => readEntriesText item depth fuel false (Json.insertSorted k v acc) c

/-- Reads the fields of a record written as an object. Known fields are read with their
readers, unknown ones passed over; a repeated field stops the reading just after its key. -/
def readFieldsText (fields : List (String × Shape × Option Json)) (readers : List TextReader)
    (depth : Nat) : Nat → Bool → List (Option Json) → Cursor → Inside
  | 0, _, _, c => c.fail .recursionLimit
  | fuel + 1, first, slots, c =>
    match c.nextKey first with
    | .error e => .error e
    | .ok none =>
      match fillAbsent fields slots with
      | .ok values => .ok (.ok (.object values), c.skipBlank)
      | .error e => .ok (.error e, c.skipBlank)
    | .ok (some c) =>
      match c.bump.readString with
      | .error e => .error e
      | .ok (k, c) =>
        match fieldIndex fields k with
        | some i =>
          if (slots.getD i none).isSome then .ok (.error (.duplicateField k), c)
          else
            match c.readColon with
            | .error e => .error e
            | .ok c =>
              match (readers.getD i fun _ c => .ok (.null, c)) depth c with
              | .error e => .error e
              | .ok (v, c) => readFieldsText fields readers depth fuel false (slots.set i (some v)) c
        | none =>
          match c.readColon with
          | .error e => .error e
          | .ok c =>
            match c.skipValue with
            | .error e => .error e
            | .ok c => readFieldsText fields readers depth fuel false slots c

/-- Reads the fields of a record written as an array, in declaration order. -/
def readPositionalText (name : String) (n : Nat) (depth : Nat) :
    List (String × Shape × Option Json) → List TextReader → Nat → Bool → List (String × Json) →
      Cursor → Inside
  | [], _, _, _, acc, c => .ok (.ok (.object acc.reverse), c)
  | (k, _, dflt) :: fs, readers, i, first, acc, c =>
    match c.nextItem first with
    | .error e => .error e
    | .ok none =>
      match dflt with
      | some d => readPositionalText name n depth fs readers.tail (i + 1) first ((k, d) :: acc) c.skipBlank
      | none => .ok (.error (.invalidLength i (name ++ " with " ++ count n "element")), c.skipBlank)
    | .ok (some c) =>
      match (readers.headD fun _ c => .ok (.null, c)) depth c with
      | .error e => .error e
      | .ok (v, c) => readPositionalText name n depth fs readers.tail (i + 1) false ((k, v) :: acc) c

/-- A reader that reads plain JSON, then checks it against a shape, placing a problem after
it. -/
def checkedAny (s : Shape) (fuel : Nat) (depth : Nat) (c : Cursor) :
    Except Located (Json × Cursor) := do
  let (j, c) ← Cursor.readValue depth c.budget c
  match decode false fuel s j with
  | .ok n => pure (n, c)
  | .error e => throw (placeAt c e)

/-- The text reader of a shape; `fuel` bounds the nesting of shapes and of the text. -/
def readText : Nat → Shape → TextReader
  | 0, _ => fun _ c => c.fail .recursionLimit
  | fuel + 1, s => fun depth c =>
    match s with
    | .any => Cursor.readValue depth c.budget c
    | .bool => readBoolText c
    | .float => readNumberText "f64" (fun n => .ok (Json.float n.asF64)) c
    | .unsigned name max => readNumberText name (acceptUnsigned name max) c
    | .string => readStringText c
    | .option inner =>
      let c := c.skipBlank
      match c.rest with
      | 'n' :: _ => (c.bump.expectWord ['u', 'l', 'l']).map (Json.null, ·)
      | _ => readText fuel inner depth c
    | .seq item =>
      container true "a sequence" depth
        (fun d c => readItemsText (readText fuel item) d c.budget true [] c) c
    | .map item =>
      container false "a map" depth
        (fun d c => readEntriesText (readText fuel item) d c.budget true [] c) c
    | .record name fields =>
      let readers := fields.map fun (_, fs, _) => readText fuel fs
      let c := c.skipBlank
      match c.rest with
      | '[' :: _ =>
        container true name depth
          (fun d c => readPositionalText name fields.length d fields readers 0 true [] c) c
      | _ =>
        container false name depth
          (fun d c => readFieldsText fields readers d c.budget true (fields.map fun _ => none) c) c
    | .uuid | .timestamp =>
      let expected := if s matches .uuid then "a formatted UUID string"
        else "a formatted date and time string or a unix timestamp"
      let c := c.skipBlank
      match c.rest with
      | [] => c.failNext .eofValue
      | '"' :: _ => do
        let (t, c) ← c.bump.readString
        match decode false 2 s (.string t) with
        | .ok n => pure (n, c)
        | .error e => throw (placeAt c e)
      | _ :: _ => .error (wrongKind c expected)
    | .unitEnum _ | .value => checkedAny s (fuel + 16) depth c

/-- Reads a whole text as data of a shape, with nothing but blanks after it. -/
def parseText (s : Shape) (text : String) : Except Located Json := do
  let c := Cursor.start text
  let (j, c) ← readText (16 * (c.rest.length + 2)) s 128 c
  c.readEnd
  pure j

end Shape

end Wire

end Superstep
