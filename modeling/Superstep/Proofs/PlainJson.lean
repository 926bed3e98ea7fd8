import Mathlib
import Superstep.Proofs.Exact
import Superstep.Proofs.WireForm

/-!
# Values and plain JSON

`Value.toJson` writes a value as plain JSON and `Value.ofJson` reads plain JSON back into the
native variants. They invert each other on what both sides hold:

* a value built from `null`, booleans, strings, arrays, objects and finite numbers
  (`Value.Plain`) reads back equal to itself under the equality of values (`Value.beq`); an
  integral number is written as an integer and read back as the same double, except that a
  negative zero comes back positive, which that equality does not tell apart;
* a document whose numbers are integers of magnitude at most `2^53` or finite doubles with a
  fractional part (`Json.Exact`) reads back as the same document, objects and arrays included.

Objects on both sides are maps: their keys are strictly sorted, as `Value.ofFields` and the
JSON reader build them, so comparing them field by field compares them as maps.
-/

namespace Superstep

namespace Value

mutual
/-- Equality of values: numbers compare as doubles (`+0 = -0`, a NaN equals nothing), embedded
documents as `Json.beq`, arrays item by item and objects field by field. -/
def beq : Value → Value → Bool
  | .null, .null => true
  | .bool a, .bool b => a == b
  | .number x, .number y => x.numEq y
  | .string a, .string b => a == b
  | .bytes a, .bytes b => a == b
  | .json a, .json b => a.beq b
  | .array a, .array b => beqList a b
  | .object a, .object b => beqFields a b
  | _, _ => false

/-- Item-by-item equality of lists of values. -/
def beqList : List Value → List Value → Bool
  | [], [] => true
  | a :: as, b :: bs => beq a b && beqList as bs
  | _, _ => false

/-- Field-by-field equality of lists of fields. -/
def beqFields : List (String × Value) → List (String × Value) → Bool
  | [], [] => true
  | (k, a) :: as, (l, b) :: bs => k == l && beq a b && beqFields as bs
  | _, _ => false
end

mutual
/-- A value plain JSON holds: no bytes and no embedded document, finite numbers, and objects
whose keys are strictly sorted. -/
def Plain : Value → Prop
  | .number x => x.isFinite = true
  | .bytes _ => False
  | .json _ => False
  | .array items => PlainList items
  | .object fields => fields.Pairwise (fun a b => a.1 < b.1) ∧ PlainFields fields
  | _ => True

/-- Every item is plain. -/
def PlainList : List Value → Prop
  | [] => True
  | v :: vs => Plain v ∧ PlainList vs

/-- Every field value is plain. -/
def PlainFields : List (String × Value) → Prop
  | [] => True
  | (_, v) :: vs => Plain v ∧ PlainFields vs
end

theorem toJsonFields_eq_map (fs : List (String × Value)) :
    toJsonFields fs = fs.map fun p => (p.1, p.2.toJson) := by
  induction fs with
  | nil => rfl
  | cons p ps ih =>
    obtain ⟨k, v⟩ := p
    simp [toJsonFields, ih]

theorem ofJsonFields_eq_map (fs : List (String × Json)) :
    ofJsonFields fs = fs.map fun p => (p.1, ofJson p.2) := by
  induction fs with
  | nil => rfl
  | cons p ps ih =>
    obtain ⟨k, j⟩ := p
    simp [ofJsonFields, ih]

/-- Writing the values of an object keeps its keys, so a map stays a map. -/
theorem toJson_object {fs : List (String × Value)} (h : fs.Pairwise fun a b => a.1 < b.1) :
    toJson (.object fs) = .object (toJsonFields fs) := by
  rw [toJson, Json.ofFields_of_sorted]
  rw [toJsonFields_eq_map, List.pairwise_map]
  exact h

/-! ## From values to plain JSON and back -/

/-- A finite double reads back numerically equal from its plain JSON form: an integral one below
`2^63` goes through the integer it holds, any other one is written as itself. -/
theorem beq_ofJson_numberToJson {x : Binary64} (hx : x.isFinite = true) :
    (ofJson (numberToJson x)).beq (.number x) = true := by
  unfold numberToJson
  by_cases hi : (x.isIntegral && x.magnitudeBelowPow2 63) = true
  · obtain ⟨hint, hbelow⟩ := Bool.and_eq_true_iff.1 hi
    simp only [hi, if_true, Json.int, ofJson, JsonNumber.asF64, beq]
    exact Binary64.numEq_ofInt_truncSat hx hint hbelow
  · simp only [hi, Bool.false_eq_true, if_false, Json.ofF64, hx, if_true, Json.float, ofJson,
      JsonNumber.asF64, beq]
    exact Binary64.numEq_self (Binary64.isNaN_of_isFinite hx)

mutual
/-- A plain value reads back from its plain JSON form equal to itself. -/
theorem beq_ofJson_toJson (v : Value) (h : v.Plain) : (ofJson v.toJson).beq v = true := by
  cases v with
  | null => rfl
  | bool b => simp [toJson, ofJson, beq]
  | number x => exact beq_ofJson_numberToJson h
  | string s => simp [toJson, ofJson, beq]
  | bytes data => exact h.elim
  | json j => exact h.elim
  | array items =>
    show beqList (ofJsonList (toJsonList items)) items = true
    exact beqList_ofJsonList_toJsonList items h
  | object fields =>
    rw [toJson_object h.1]
    exact beqFields_ofJsonFields_toJsonFields fields h.2

theorem beqList_ofJsonList_toJsonList (vs : List Value) (h : PlainList vs) :
    beqList (ofJsonList (toJsonList vs)) vs = true := by
  cases vs with
  | nil => rfl
  | cons v vs =>
    simp only [toJsonList, ofJsonList, beqList, beq_ofJson_toJson v h.1,
      beqList_ofJsonList_toJsonList vs h.2, Bool.and_self]

theorem beqFields_ofJsonFields_toJsonFields (fs : List (String × Value)) (h : PlainFields fs) :
    beqFields (ofJsonFields (toJsonFields fs)) fs = true := by
  cases fs with
  | nil => rfl
  | cons p ps =>
    obtain ⟨k, v⟩ := p
    simp only [toJsonFields, ofJsonFields, beqFields, beq_self_eq_true, beq_ofJson_toJson v h.1,
      beqFields_ofJsonFields_toJsonFields ps h.2, Bool.and_self]
end

end Value

namespace Json

mutual
/-- A document doubles hold exactly: its numbers are integers of magnitude at most `2^53` or
finite doubles with a fractional part, and its objects keep their keys strictly sorted. -/
def Exact : Json → Prop
  | .number (.int i) => i.natAbs ≤ 2 ^ 53
  | .number (.float x) => x.isFinite = true ∧ x.isIntegral = false
  | .array items => ExactList items
  | .object fields => fields.Pairwise (fun a b => a.1 < b.1) ∧ ExactFields fields
  | _ => True

/-- Every item is exact. -/
def ExactList : List Json → Prop
  | [] => True
  | j :: js => Exact j ∧ ExactList js

/-- Every field value is exact. -/
def ExactFields : List (String × Json) → Prop
  | [] => True
  | (_, j) :: js => Exact j ∧ ExactFields js
end

end Json

namespace Value

/-- An exact number reads back from its native form as itself. -/
theorem toJson_ofJson_number {n : JsonNumber} (h : (Json.number n).Exact) :
    (ofJson (.number n)).toJson = .number n := by
  cases n with
  | int i =>
    obtain ⟨hint, hbelow, htrunc⟩ := Binary64.truncSat_ofInt (i := i) h
    simp [ofJson, JsonNumber.asF64, toJson, numberToJson, hint, hbelow, htrunc, Json.int]
  | float x =>
    obtain ⟨hfin, hint⟩ : x.isFinite = true ∧ x.isIntegral = false := h
    simp [ofJson, JsonNumber.asF64, toJson, numberToJson, hint, Json.ofF64, hfin, Json.float]

mutual
/-- An exact document reads back from its native form as itself. -/
theorem toJson_ofJson (j : Json) (h : j.Exact) : (ofJson j).toJson = j := by
  cases j with
  | null => rfl
  | bool b => rfl
  | number n => exact toJson_ofJson_number h
  | string s => rfl
  | array items =>
    show Json.array (toJsonList (ofJsonList items)) = _
    rw [toJsonList_ofJsonList items h]
  | object fields =>
    have hsorted : (ofJsonFields fields).Pairwise fun a b => a.1 < b.1 := by
      rw [ofJsonFields_eq_map, List.pairwise_map]
      exact h.1
    show toJson (.object (ofJsonFields fields)) = _
    rw [toJson_object hsorted, toJsonFields_ofJsonFields fields h.2]

theorem toJsonList_ofJsonList (js : List Json) (h : Json.ExactList js) :
    toJsonList (ofJsonList js) = js := by
  cases js with
  | nil => rfl
  | cons j js =>
    show toJson (ofJson j) :: toJsonList (ofJsonList js) = _
    rw [toJson_ofJson j h.1, toJsonList_ofJsonList js h.2]

theorem toJsonFields_ofJsonFields (fs : List (String × Json)) (h : Json.ExactFields fs) :
    toJsonFields (ofJsonFields fs) = fs := by
  cases fs with
  | nil => rfl
  | cons p ps =>
    obtain ⟨k, j⟩ := p
    show (k, toJson (ofJson j)) :: toJsonFields (ofJsonFields ps) = _
    rw [toJson_ofJson j h.1, toJsonFields_ofJsonFields ps h.2]
end

end Value

/-- **Values and plain JSON convert back and forth.** A plain value written as plain JSON reads
back equal to itself, and an exact document read into native values writes back as itself, with
every key and every item in place at every depth. -/
theorem value_json_round_trip (v : Value) (j : Json) (hv : v.Plain) (hj : j.Exact) :
    (Value.ofJson v.toJson).beq v = true ∧ (Value.ofJson j).toJson = j :=
  ⟨Value.beq_ofJson_toJson v hv, Value.toJson_ofJson j hj⟩

/-- The document `{"count": 3, "name": "a", "tags": ["x"]}` and the value it stands for convert
back and forth. -/
theorem counted_tags_round_trip :
    let v : Value := .object [("count", .number ⟨false, 1024, ⟨2 ^ 51, by decide⟩⟩),
      ("name", .string "a"), ("tags", .array [.string "x"])]
    let j : Json := .object [("count", Json.int 3), ("name", .string "a"),
      ("tags", .array [.string "x"])]
    v.Plain ∧ j.Exact ∧ (Value.ofJson v.toJson).beq v = true ∧ (Value.ofJson j).toJson = j := by
  intro v j
  have hv : v.Plain := by
    refine ⟨by decide, ?_⟩
    simp [Value.PlainFields, Value.Plain, Value.PlainList, Binary64.isFinite]
  have hj : j.Exact := by
    refine ⟨by decide, ?_⟩
    simp [Json.ExactFields, Json.Exact, Json.ExactList, Json.int]
  exact ⟨hv, hj, value_json_round_trip v j hv hj⟩

end Superstep
