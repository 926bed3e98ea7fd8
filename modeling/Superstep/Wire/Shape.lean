import Superstep.Json.Error
import Superstep.Value.Basic
import Superstep.Wire.Uuid
import Superstep.Wire.Timestamp

/-!
# Shapes of stored data

A `Wire.Shape` describes what a piece of stored data must look like: a string, a number in a
range, a list, a record with named fields, an enumeration, a tagged `Value`, and so on.
`Shape.decode` checks a JSON document against a shape and returns its *normal form*: the same
data with the defaults of absent record fields filled in and numbers in the kind the shape
calls for. Typed readers (`Definition.ofWire`, `Event.ofWire`, …) then read the normal form.

The checks, and the order in which the first failure is found, are those of the engine's
decoder:
* a record is an object, whose known fields are checked in the order of the object's keys
  (unknown keys are ignored), or an array holding the fields in declaration order; an absent
  field takes its default, an absent optional field is `null`, and otherwise the first absent
  field in declaration order is missing;
* an enumeration is a variant name, or an object with the name as its only key and `null` as
  its value;
* a tagged value is an object whose `type` key names the variant as an enumeration does and
  whose `value` key holds the contents (other keys are ignored), or an array
  `[variant, contents]` whose first item is a variant name.

Decoding runs in one of two modes. Data decoded straight from a document is in the direct mode.
Data that was first set aside while looking for a tag (the fields of an event) is in the
*buffered* mode, which differs in three small ways: the first item of a tagged array may also
name a variant by its index, an enumeration's name may stand over an empty object as well as
over `null`, and an array with too many items is reported with the count the decoder expected.
-/

namespace Superstep

namespace Wire

/-- The shape of a piece of stored data. -/
inductive Shape where
  /-- Any JSON document, kept as it is. -/
  | any
  /-- A boolean. -/
  | bool
  /-- A double; integers convert to the nearest double. -/
  | float
  /-- An integer from `0` to `max`, named `name` in messages. -/
  | unsigned (name : String) (max : Nat)
  /-- A string. -/
  | string
  /-- `null`, or data of the inner shape. -/
  | option (inner : Shape)
  /-- An array of items of one shape. -/
  | seq (item : Shape)
  /-- An object whose values have one shape. -/
  | map (item : Shape)
  /-- A record, called `name` in messages, with its fields in declaration order: the key, the
  shape, and the default used when the field is absent. -/
  | record (name : String) (fields : List (String × Shape × Option Json))
  /-- A choice among named constants. -/
  | unitEnum (variants : List String)
  /-- A UUID in any written form; the normal form is the grouped lowercase form. -/
  | uuid
  /-- An RFC 3339 date and time; the normal form is the UTC form. -/
  | timestamp
  /-- A `Value` in its tagged form. -/
  | value

namespace Shape

/-- `n` things, with the noun in the singular for one. -/
def count (n : Nat) (noun : String) : String :=
  toString n ++ " " ++ noun ++ (if n = 1 then "" else "s")

/-- The error for an array with more items than a decoder read. -/
def tooLong (buffered : Bool) (length used : Nat) : DecodeError :=
  if buffered then .invalidLength length (count used "element" ++ " in sequence")
  else .invalidLength length "fewer elements in array"

/-- The error for data of the wrong kind. -/
def mismatch (j : Json) (expected : String) : DecodeError := .invalidType (Unexpected.ofJson j) expected

/-- The value of a field that is absent from an object: its default, `null` for an optional
field, or the missing-field error. -/
def absent (key : String) (shape : Shape) (dflt : Option Json) : Except DecodeError Json :=
  match dflt, shape with
  | some d, _ => .ok d
  | none, .option _ => .ok .null
  | none, _ => .error (.missingField key)

/-- The position of a key among the fields of a record. -/
def fieldIndex (fields : List (String × Shape × Option Json)) (key : String) : Option Nat :=
  fields.findIdx? (·.1 == key)

/-- The index of a variant, named or, in buffered mode, numbered. -/
def variantIndex (buffered : Bool) (variants : List String) (j : Json) : Except DecodeError Nat :=
  match j with
  | .string s =>
    match variants.findIdx? (· == s) with
    | some i => .ok i
    | none => .error (.unknownVariant s variants)
  | .number (.int i) =>
    if buffered ∧ 0 ≤ i then
      if i < variants.length then .ok i.toNat
      else .error (.invalidValue (.unsigned i.toNat)
        ("variant index 0 <= i < " ++ toString variants.length))
    else .error (mismatch j "variant identifier")
  | _ => .error (mismatch j "variant identifier")

/-- The index of the constant of an enumeration that data names: a name, or an object with one
key, the name, over a unit (`null`, or an empty object when the data was buffered). -/
def enumIndex (buffered : Bool) (variants : List String) (j : Json) : Except DecodeError Nat :=
  let named (s : String) : Except DecodeError Nat :=
    match variants.findIdx? (· == s) with
    | some i => .ok i
    | none => .error (.unknownVariant s variants)
  match j with
  | .string s => named s
  | .object [(k, v)] => do
    let i ← named k
    match v with
    | .null => pure i
    | .object [] => if buffered then pure i else .error (mismatch v "unit")
    | _ => .error (mismatch v "unit")
  | .object _ => .error (.invalidValue .map "map with a single key")
  | _ => .error (mismatch j "string or map")

/-- Checks the data of a constant of an enumeration, giving its name. -/
def decodeEnum (buffered : Bool) (variants : List String) (j : Json) : Except DecodeError Json :=
  (enumIndex buffered variants j).map fun i => .string (variants.getD i "")

/-- A decoder for the parts of a larger piece of data, in a given mode. -/
abbrev PartDecoder := Bool → Shape → Json → Except DecodeError Json

/-- Records the known fields of an object, in the object's order, into the slots of a record. -/
def collectEntries (dec : Shape → Json → Except DecodeError Json)
    (fields : List (String × Shape × Option Json)) :
    List (Option Json) → List (String × Json) → Except DecodeError (List (Option Json))
  | acc, [] => .ok acc
  | acc, (k, v) :: rest =>
    match fieldIndex fields k with
    | none => collectEntries dec fields acc rest
    | some i =>
      if (acc.getD i none).isSome then .error (.duplicateField k)
      else
        match dec (fields.getD i ("", .any, none)).2.1 v with
        | .ok d => collectEntries dec fields (acc.set i (some d)) rest
        | .error e => .error e

/-- Fills the slots of a record, taking defaults for absent fields in declaration order. -/
def fillAbsent : List (String × Shape × Option Json) → List (Option Json) →
    Except DecodeError (List (String × Json))
  | [], _ => .ok []
  | (k, shape, dflt) :: fs, slot :: slots => do
    let v ← match slot with
      | some d => pure d
      | none => absent k shape dflt
    let rest ← fillAbsent fs slots
    pure ((k, v) :: rest)
  | (k, shape, dflt) :: fs, [] => do
    let v ← absent k shape dflt
    let rest ← fillAbsent fs []
    pure ((k, v) :: rest)

/-- A record from an object: known keys in the object's order, then the absent fields. -/
def decodeEntries (dec : Shape → Json → Except DecodeError Json)
    (fields : List (String × Shape × Option Json)) (entries : List (String × Json)) :
    Except DecodeError Json := do
  let slots ← collectEntries dec fields (fields.map fun _ => none) entries
  let values ← fillAbsent fields slots
  pure (.object values)

/-- The fields of a record from the items of an array, from item `i` on. -/
def itemFields (dec : Shape → Json → Except DecodeError Json) (name : String) (n : Nat) :
    List (String × Shape × Option Json) → List Json → Nat → Except DecodeError (List (String × Json))
  | [], _, _ => .ok []
  | (k, shape, dflt) :: fs, items, i => do
    let v ← match items with
      | v :: _ => dec shape v
      | [] =>
        match dflt with
        | some d => pure d
        | none => .error (.invalidLength i (name ++ " with " ++ count n "element"))
    let rest ← itemFields dec name n fs items.tail (i + 1)
    pure ((k, v) :: rest)

/-- A record from an array holding its fields in declaration order. -/
def decodeItems (buffered : Bool) (dec : Shape → Json → Except DecodeError Json) (name : String)
    (fields : List (String × Shape × Option Json)) (items : List Json) : Except DecodeError Json := do
  let n := fields.length
  let values ← itemFields dec name n fields items 0
  if n < items.length then .error (tooLong buffered items.length n) else pure (.object values)

/-- The contents of a tagged value of the variant with index `v`. -/
def decodeContents (dec : Shape → Json → Except DecodeError Json) (v : Nat) (c : Json) :
    Except DecodeError Json :=
  let inner : Except DecodeError Json :=
    match v with
    | 0 => match c with
      | .null => .ok .null
      | _ => .error (mismatch c "unit variant Value::Null")
    | 1 => dec .bool c
    | 2 => dec .float c
    | 3 => dec .string c
    | 4 => dec (.seq (.unsigned "u8" 255)) c
    | 5 => .ok c
    | 6 => dec (.seq .value) c
    | _ => dec (.map .value) c
  inner.map fun x =>
    if v = 0 then .object [("type", .string "Null")] else Value.tagged (Value.variantNames.getD v "") x

/-- What may follow the contents of a tagged object: nothing, or a repeated key. -/
def afterContents (r : Json) : List (String × Json) → Except DecodeError Json
  | [] => .ok r
  | (k, _) :: _ => .error (.duplicateField (if k == "type" then "type" else "value"))

/-- A tagged object whose first relevant key is the tag, holding `t`. -/
def tagFirst (buffered : Bool) (dec : PartDecoder) (t : Json) (rest : List (String × Json)) :
    Except DecodeError Json := do
  let v ← enumIndex buffered Value.variantNames t
  match rest with
  | [] =>
    if v = 0 then pure (.object [("type", .string "Null")]) else .error (.missingField "value")
  | (k, c) :: more =>
    if k == "value" then do
      let r ← decodeContents (dec buffered) v c
      afterContents r more
    else .error (.duplicateField "type")

/-- A tagged object whose first relevant key is the contents `c`, which are set aside until
the tag is known. -/
def contentsFirst (buffered : Bool) (dec : PartDecoder) (c : Json) (rest : List (String × Json)) :
    Except DecodeError Json :=
  match rest with
  | [] => .error (.missingField "type")
  | (k, t) :: more =>
    if k == "type" then do
      let v ← enumIndex buffered Value.variantNames t
      let r ← decodeContents (dec true) v c
      afterContents r more
    else .error (.duplicateField "value")

/-- A tagged value from an object or a two-item array. -/
def decodeTagged (buffered : Bool) (dec : PartDecoder) (j : Json) : Except DecodeError Json :=
  let expected := "adjacently tagged enum Value"
  match j with
  | .object entries =>
    match entries.filter fun (k, _) => k == "type" || k == "value" with
    | [] => .error (.missingField "type")
    | (k, x) :: rest =>
      if k == "type" then tagFirst buffered dec x rest else contentsFirst buffered dec x rest
  | .array [] => .error (.invalidLength 0 expected)
  | .array [t] => do
    let _ ← variantIndex buffered Value.variantNames t
    .error (.invalidLength 1 expected)
  | .array (t :: c :: more) => do
    let v ← variantIndex buffered Value.variantNames t
    let r ← decodeContents (dec buffered) v c
    if more.isEmpty then pure r else .error (tooLong buffered (more.length + 2) 2)
  | _ => .error (mismatch j expected)

/-- The decoder of a shape, with `fuel` bounding the nesting of shapes and documents. -/
def decode (buffered : Bool) : Nat → Shape → Json → Except DecodeError Json
  | 0, _, _ => .error (.malformed .recursionLimit)
  | fuel + 1, s, j =>
    match s, j with
    | .any, _ => .ok j
    | .bool, .bool _ => .ok j
    | .bool, _ => .error (mismatch j "a boolean")
    | .float, .number n => .ok (Json.float n.asF64)
    | .float, _ => .error (mismatch j "f64")
    | .unsigned name max, .number (.int i) =>
      if i < 0 then .error (.invalidValue (.signed i) name)
      else if max < i.toNat then .error (.invalidValue (.unsigned i.toNat) name)
      else .ok j
    | .unsigned name _, _ => .error (mismatch j name)
    | .string, .string _ => .ok j
    | .string, _ => .error (mismatch j "a string")
    | .option _, .null => .ok .null
    | .option inner, _ => decode buffered fuel inner j
    | .seq item, .array items => (items.mapM (decode buffered fuel item)).map .array
    | .seq _, _ => .error (mismatch j "a sequence")
    | .map item, .object entries =>
      (entries.mapM fun (kv : String × Json) =>
        (decode buffered fuel item kv.2).map (kv.1, ·)).map Json.ofFields
    | .map _, _ => .error (mismatch j "a map")
    | .record _ fields, .object entries => decodeEntries (decode buffered fuel) fields entries
    | .record name fields, .array items =>
      decodeItems buffered (decode buffered fuel) name fields items
    | .record name _, _ => .error (mismatch j name)
    | .unitEnum variants, _ => decodeEnum buffered variants j
    | .uuid, .string t =>
      match Uuid.parse t with
      | .ok u => .ok (.string u.toText)
      | .error e => .error (.custom ("UUID parsing failed: " ++ e.message))
    | .uuid, _ => .error (mismatch j "a formatted UUID string")
    | .timestamp, .string t =>
      match Timestamp.parse t with
      | .ok u => .ok (.string u.toText)
      | .error e => .error (.custom e.message)
    | .timestamp, _ =>
      .error (mismatch j "a formatted date and time string or a unix timestamp")
    | .value, _ => decodeTagged buffered (fun b => decode b fuel) j

/-- Enough fuel to decode a document: the nesting of shapes in this program stays far below
sixteen levels, and each level of a document costs one more. -/
def fuelFor (j : Json) : Nat := 16 * (Json.depth j + 2)

/-- Checks a document against a shape in the direct mode and returns its normal form. -/
def check (s : Shape) (j : Json) : Except DecodeError Json := decode false (fuelFor j) s j

end Shape

end Wire

end Superstep
