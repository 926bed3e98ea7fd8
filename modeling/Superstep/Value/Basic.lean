import Superstep.Json.Basic

/-!
# Dynamic values

`Value` is what messages carry, what executors yield and what they keep as state. Beside the
JSON-like variants it has raw bytes and an embedded `Json` document, which is kept as given
(its integers stay integers). Objects keep their keys sorted and unique.

Main definitions:
* the views `asStr?`, `asF64?`, `asI64?`, `asBool?`, `asJson?`, `isNull`, which look through an
  embedded document;
* `Value.ofJson`, which turns plain JSON into the native variants (every number becomes a
  double), and `Value.toJson`, the plain view back (an integral double below `2^63` in
  magnitude becomes an integer);
* `Value.toWire` and `Value.ofWire`, the tagged form `{"type": variant, "value": contents}` in
  which values are stored and exchanged.
-/

namespace Superstep

/-- A dynamic value. -/
inductive Value where
  | null
  | bool (b : Bool)
  | number (x : Binary64)
  | string (s : String)
  | bytes (data : List UInt8)
  | json (j : Json)
  | array (items : List Value)
  | object (fields : List (String × Value))
  deriving Inhabited

namespace Json

/-- A double as JSON: the number when finite, `null` otherwise. -/
def ofF64 (x : Binary64) : Json := if x.isFinite then .float x else .null

end Json

namespace Value

/-- Inserts a field into a list sorted by key, replacing a field of the same key. -/
def insertField (key : String) (v : Value) : List (String × Value) → List (String × Value)
  | [] => [(key, v)]
  | (k, w) :: rest =>
    if key = k then (key, v) :: rest
    else if key < k then (key, v) :: (k, w) :: rest
    else (k, w) :: insertField key v rest

/-- An object from fields: keys sorted, a later field replacing an earlier one. -/
def ofFields (fields : List (String × Value)) : Value :=
  .object (fields.foldl (fun acc (k, v) => insertField k v acc) [])

/-- The value of field `key` of a list of fields. -/
def lookup (fields : List (String × Value)) (key : String) : Option Value :=
  (fields.find? (·.1 == key)).map (·.2)

/-- A number from an integer, rounded to the nearest double. -/
def ofInt (i : Int) : Value := .number (Binary64.ofInt i)

/-! ## Views -/

/-- The text of a string, also of an embedded JSON string. -/
def asStr? : Value → Option String
  | .string s => some s
  | .json (.string s) => some s
  | _ => none

/-- The number as a double, also of an embedded JSON number. -/
def asF64? : Value → Option Binary64
  | .number x => some x
  | .json j => j.asF64?
  | _ => none

/-- The integral view of a number: an integral double converts toward zero, saturating at the
ends of the signed 64-bit range; a double with a fractional part has none. An embedded JSON
number counts only when it is an integer in the signed 64-bit range. -/
def asI64? : Value → Option Int
  | .number x => if x.isIntegral then some (x.truncSat 64) else none
  | .json j => j.asI64?
  | _ => none

/-- The truth value, also of an embedded JSON boolean. -/
def asBool? : Value → Option Bool
  | .bool b => some b
  | .json j => j.asBool?
  | _ => none

/-- The embedded JSON document. -/
def asJson? : Value → Option Json
  | .json j => some j
  | _ => none

/-- `null`, native or embedded. -/
def isNull : Value → Bool
  | .null => true
  | .json .null => true
  | _ => false

/-! ## Plain JSON -/

mutual
/-- Plain JSON as native values: every number becomes the nearest double. -/
def ofJson : Json → Value
  | .null => .null
  | .bool b => .bool b
  | .number n => .number n.asF64
  | .string s => .string s
  | .array items => .array (ofJsonList items)
  | .object fields => .object (ofJsonFields fields)

/-- `ofJson` on each item. -/
def ofJsonList : List Json → List Value
  | [] => []
  | j :: js => ofJson j :: ofJsonList js

/-- `ofJson` on each field value. -/
def ofJsonFields : List (String × Json) → List (String × Value)
  | [] => []
  | (k, j) :: js => (k, ofJson j) :: ofJsonFields js
end

/-- A double as plain JSON: an integral value below `2^63` in magnitude is written as the
integer, any other finite value as the double, and a non-finite one as `null`. -/
def numberToJson (x : Binary64) : Json :=
  if x.isIntegral && x.magnitudeBelowPow2 63 then Json.int (x.truncSat 64) else Json.ofF64 x

/-- Bytes as a JSON array of integers. -/
def bytesToJson (data : List UInt8) : Json := .array (data.map fun b => Json.int b.toNat)

mutual
/-- The plain JSON view, without the variant tags of the stored form. -/
def toJson : Value → Json
  | .null => .null
  | .bool b => .bool b
  | .number x => numberToJson x
  | .string s => .string s
  | .bytes data => bytesToJson data
  | .json j => j
  | .array items => .array (toJsonList items)
  | .object fields => Json.ofFields (toJsonFields fields)

/-- `toJson` on each item. -/
def toJsonList : List Value → List Json
  | [] => []
  | v :: vs => toJson v :: toJsonList vs

/-- `toJson` on each field value. -/
def toJsonFields : List (String × Value) → List (String × Json)
  | [] => []
  | (k, v) :: vs => (k, toJson v) :: toJsonFields vs
end

/-! ## The tagged form -/

/-- The names of the variants in the tagged form, in declaration order. -/
def variantNames : List String :=
  ["Null", "Bool", "Number", "String", "Bytes", "Json", "Array", "Object"]

/-- A tagged form with contents. -/
def tagged (name : String) (contents : Json) : Json :=
  .object [("type", .string name), ("value", contents)]

mutual
/-- The tagged form: `{"type": "Null"}` for null, `{"type": variant, "value": contents}`
otherwise, with the contents of arrays and objects tagged in turn. -/
def toWire : Value → Json
  | .null => .object [("type", .string "Null")]
  | .bool b => tagged "Bool" (.bool b)
  | .number x => tagged "Number" (Json.ofF64 x)
  | .string s => tagged "String" (.string s)
  | .bytes data => tagged "Bytes" (bytesToJson data)
  | .json j => tagged "Json" j
  | .array items => tagged "Array" (.array (toWireList items))
  | .object fields => tagged "Object" (.object (toWireFields fields))

/-- `toWire` on each item. -/
def toWireList : List Value → List Json
  | [] => []
  | v :: vs => toWire v :: toWireList vs

/-- `toWire` on each field value. -/
def toWireFields : List (String × Value) → List (String × Json)
  | [] => []
  | (k, v) :: vs => (k, toWire v) :: toWireFields vs
end

/-- The bytes of a JSON array of integers below 256; other items are dropped. -/
def bytesOfJson : Json → List UInt8
  | .array items => items.filterMap fun j =>
    match j.asU64? with
    | some n => if n < 256 then some n.toUInt8 else none
    | none => none
  | _ => []

mutual
/-- The value a tagged form stands for. It inverts `toWire`; a document that is not a tagged
form (the decoders never produce one) reads as `null`. -/
def ofWire : Json → Value
  | .object [("type", .string "Bool"), ("value", .bool b)] => .bool b
  | .object [("type", .string "Number"), ("value", .number n)] => .number n.asF64
  | .object [("type", .string "String"), ("value", .string s)] => .string s
  | .object [("type", .string "Bytes"), ("value", j)] => .bytes (bytesOfJson j)
  | .object [("type", .string "Json"), ("value", j)] => .json j
  | .object [("type", .string "Array"), ("value", .array items)] => .array (ofWireList items)
  | .object [("type", .string "Object"), ("value", .object entries)] =>
    .object (ofWireFields entries)
  | _ => .null

/-- `ofWire` on each item. -/
def ofWireList : List Json → List Value
  | [] => []
  | j :: js => ofWire j :: ofWireList js

/-- `ofWire` on each field value. -/
def ofWireFields : List (String × Json) → List (String × Value)
  | [] => []
  | (k, j) :: js => (k, ofWire j) :: ofWireFields js
end

end Value

end Superstep
