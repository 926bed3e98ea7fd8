import Superstep.Binary64.Basic

/-!
# JSON values

`Json` is a JSON document as the engine's configuration and payloads carry it. Numbers keep the
distinction the reader makes: a whole number that fits a signed or unsigned 64-bit word stays an
exact integer, every other number is a double. An object is a list of fields; objects built as
maps (`Json.ofFields`) keep their keys sorted and unique, objects written from records keep the
record's field order.

Main definitions: the accessors `asI64?`, `asU64?`, `asF64?`, `asStr?`, `asBool?`, `isNull`,
field lookup `get?`, and `Json.beq`, the equality under which numbers compare by value within
their kind.
-/

namespace Superstep

/-- A JSON number: an exact integer in the range of a signed or unsigned 64-bit word, or a
double. -/
inductive JsonNumber where
  | int (i : Int)
  | float (x : Binary64)
  deriving DecidableEq, Inhabited

namespace JsonNumber

/-- The least integer a signed 64-bit word holds. -/
def i64Min : Int := -(Int.pow 2 63)

/-- The greatest integer a signed 64-bit word holds. -/
def i64Max : Int := Int.pow 2 63 - 1

/-- The greatest integer an unsigned 64-bit word holds. -/
def u64Max : Int := Int.pow 2 64 - 1

/-- The number as a signed 64-bit integer, if it is an integer in that range. -/
def asI64? : JsonNumber → Option Int
  | .int i => if i64Min ≤ i ∧ i ≤ i64Max then some i else none
  | .float _ => none

/-- The number as an unsigned 64-bit integer, if it is a non-negative integer. -/
def asU64? : JsonNumber → Option Nat
  | .int i => if 0 ≤ i then some i.toNat else none
  | .float _ => none

/-- The number as a double: integers convert to the nearest double. -/
def asF64 : JsonNumber → Binary64
  | .int i => Binary64.ofInt i
  | .float x => x

/-- Equality of numbers: integers by value, doubles numerically, never an integer with a
double. -/
def beq : JsonNumber → JsonNumber → Bool
  | .int a, .int b => a == b
  | .float x, .float y => x.numEq y
  | _, _ => false

end JsonNumber

/-- A JSON value. -/
inductive Json where
  | null
  | bool (b : Bool)
  | number (n : JsonNumber)
  | string (s : String)
  | array (items : List Json)
  | object (fields : List (String × Json))
  deriving Inhabited

namespace Json

/-- An integer value. -/
def int (i : Int) : Json := .number (.int i)

/-- A double value. -/
def float (x : Binary64) : Json := .number (.float x)

/-- The value as a signed 64-bit integer. -/
def asI64? : Json → Option Int
  | .number n => n.asI64?
  | _ => none

/-- The value as an unsigned 64-bit integer. -/
def asU64? : Json → Option Nat
  | .number n => n.asU64?
  | _ => none

/-- The value as a double, for any number. -/
def asF64? : Json → Option Binary64
  | .number n => some n.asF64
  | _ => none

/-- The text of a string value. -/
def asStr? : Json → Option String
  | .string s => some s
  | _ => none

/-- The truth value of a boolean. -/
def asBool? : Json → Option Bool
  | .bool b => some b
  | _ => none

/-- The items of an array. -/
def asArray? : Json → Option (List Json)
  | .array items => some items
  | _ => none

/-- The fields of an object. -/
def asObject? : Json → Option (List (String × Json))
  | .object fields => some fields
  | _ => none

/-- Whether the value is `null`. -/
def isNull : Json → Bool
  | .null => true
  | _ => false

/-- The value of the first field named `key`. -/
def lookup (fields : List (String × Json)) (key : String) : Option Json :=
  (fields.find? (·.1 == key)).map (·.2)

/-- The value of field `key` of an object. -/
def get? (j : Json) (key : String) : Option Json :=
  match j with
  | .object fields => lookup fields key
  | _ => none

/-- Inserts a field into a list sorted by key, replacing a field of the same key. -/
def insertSorted (key : String) (v : Json) : List (String × Json) → List (String × Json)
  | [] => [(key, v)]
  | (k, w) :: rest =>
    if key = k then (key, v) :: rest
    else if key < k then (key, v) :: (k, w) :: rest
    else (k, w) :: insertSorted key v rest

/-- A map object from fields: keys sorted, a later field replacing an earlier one of the same
key. -/
def ofFields (fields : List (String × Json)) : Json :=
  .object (fields.foldl (fun acc (k, v) => insertSorted k v acc) [])

mutual
/-- The nesting depth of a value: one for a scalar, one more than its deepest part for an
array or object. -/
def depth : Json → Nat
  | .array items => depthList items + 1
  | .object fields => depthFields fields + 1
  | _ => 1

/-- The greatest depth of a list of values. -/
def depthList : List Json → Nat
  | [] => 0
  | j :: js => max (depth j) (depthList js)

/-- The greatest depth of the values of a list of fields. -/
def depthFields : List (String × Json) → Nat
  | [] => 0
  | (_, j) :: js => max (depth j) (depthFields js)
end

mutual
/-- Equality of JSON values: numbers compare as `JsonNumber.beq`, arrays item by item, objects
field by field in order. -/
def beq : Json → Json → Bool
  | .null, .null => true
  | .bool a, .bool b => a == b
  | .number a, .number b => a.beq b
  | .string a, .string b => a == b
  | .array a, .array b => beqList a b
  | .object a, .object b => beqFields a b
  | _, _ => false

/-- Item-by-item equality of lists of values. -/
def beqList : List Json → List Json → Bool
  | [], [] => true
  | a :: as, b :: bs => beq a b && beqList as bs
  | _, _ => false

/-- Field-by-field equality of lists of fields. -/
def beqFields : List (String × Json) → List (String × Json) → Bool
  | [], [] => true
  | (k, a) :: as, (l, b) :: bs => k == l && beq a b && beqFields as bs
  | _, _ => false
end

end Json

end Superstep
