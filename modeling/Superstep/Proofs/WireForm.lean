import Mathlib
import Superstep.Proofs.WireText
import Superstep.Core.Event
import Superstep.Json.Print
import Superstep.Json.Reader

/-!
# Reading back the stored forms

Events, values, run states and error kinds read back from the JSON the program stores them as
(`storedForms_read_back`), for events and values whose numbers are finite, whose objects keep
their keys strictly sorted (as `Value.ofFields` builds them), whose counts fit 64 bits and whose
instants are valid (`Event.WellFormed`, `Value.WellFormed`).

The tagged form of a value is its own normal form once the decoder has fuel for its depth
(`Wire.Shape.decode_value_toWire`); a record whose fields are each present once reads back in
declaration order (`Wire.Shape.decodeEntries_present`). From these, each kind of event reads
back (`Event.decode_toWire`).

The stored text does not always read back: the number reader scales the digits by a rounded
power of ten, so `3e23` reads as the double below it (`output_text_reads_other_number`).
-/

namespace Superstep

namespace Json

theorem depth_pos (j : Json) : 0 < j.depth := by
  cases j <;> simp [depth]

theorem depth_le_depthList {j : Json} {items : List Json} (h : j ∈ items) :
    j.depth ≤ depthList items := by
  induction items with
  | nil => simp at h
  | cons i is ih =>
    simp only [List.mem_cons] at h
    simp only [depthList]
    rcases h with rfl | h
    · exact le_max_left _ _
    · exact (ih h).trans (le_max_right _ _)

theorem depth_le_depthFields {k : String} {j : Json} {fs : List (String × Json)} (h : (k, j) ∈ fs) :
    j.depth ≤ depthFields fs := by
  induction fs with
  | nil => simp at h
  | cons p ps ih =>
    obtain ⟨k', j'⟩ := p
    simp only [List.mem_cons, Prod.mk.injEq] at h
    simp only [depthFields]
    rcases h with ⟨rfl, rfl⟩ | h
    · exact le_max_left _ _
    · exact (ih h).trans (le_max_right _ _)

theorem depth_lt_of_mem_array {j : Json} {items : List Json} (h : j ∈ items) :
    j.depth < (Json.array items).depth := by
  have := depth_le_depthList h
  simp only [depth]
  omega

theorem depth_lt_of_mem_object {k : String} {j : Json} {fs : List (String × Json)} (h : (k, j) ∈ fs) :
    j.depth < (Json.object fs).depth := by
  have := depth_le_depthFields h
  simp only [depth]
  omega

theorem lookup_append (l l' : List (String × Json)) (k : String) :
    lookup (l ++ l') k = (lookup l k).or (lookup l' k) := by
  simp [lookup, List.find?_append, Option.map_or]

theorem lookup_eq_none {l : List (String × Json)} {k : String} :
    lookup l k = none ↔ k ∉ l.map Prod.fst := by
  simp only [lookup, Option.map_eq_none_iff, List.find?_eq_none, beq_iff_eq, List.mem_map]
  exact ⟨fun h ⟨p, hp, hk⟩ => h p hp hk, fun h p hp hk => h ⟨p, hp, hk⟩⟩

/-- Inserting a key above every key of a list appends it. -/
theorem insertSorted_of_lt {key : String} {v : Json} :
    ∀ {acc : List (String × Json)}, (∀ p ∈ acc, p.1 < key) → insertSorted key v acc = acc ++ [(key, v)]
  | [], _ => rfl
  | (k, w) :: rest, h => by
    have hk : k < key := h (k, w) List.mem_cons_self
    have ih := insertSorted_of_lt (v := v) fun p hp => h p (List.mem_cons_of_mem _ hp)
    simp [insertSorted, (ne_of_lt hk).symm, not_lt_of_gt hk, ih]

/-- Fields whose keys are strictly sorted are an object as they stand. -/
theorem ofFields_of_sorted {fs : List (String × Json)} (h : fs.Pairwise fun a b => a.1 < b.1) :
    ofFields fs = .object fs := by
  suffices ∀ acc : List (String × Json), (acc ++ fs).Pairwise (fun a b => a.1 < b.1) →
      fs.foldl (fun acc p => insertSorted p.1 p.2 acc) acc = acc ++ fs by
    simpa [ofFields] using this [] h
  clear h
  induction fs with
  | nil => simp
  | cons p ps ih =>
    intro acc hs
    have hlt : ∀ q ∈ acc, q.1 < p.1 := fun q hq =>
      (List.pairwise_append.1 hs).2.2 q hq p List.mem_cons_self
    rw [List.foldl_cons, insertSorted_of_lt hlt,
      ih (acc ++ [p]) (by rwa [List.append_assoc, List.singleton_append])]
    simp

end Json

namespace Value

mutual
/-- A value the tagged form writes exactly: its numbers are finite, and its objects keep their
keys strictly sorted, as `Value.ofFields` builds them. -/
def WellFormed : Value → Prop
  | .number x => x.isFinite = true
  | .array items => WellFormedList items
  | .object fields => fields.Pairwise (fun a b => a.1 < b.1) ∧ WellFormedFields fields
  | _ => True

/-- Every item is well formed. -/
def WellFormedList : List Value → Prop
  | [] => True
  | v :: vs => WellFormed v ∧ WellFormedList vs

/-- Every field value is well formed. -/
def WellFormedFields : List (String × Value) → Prop
  | [] => True
  | (_, v) :: vs => WellFormed v ∧ WellFormedFields vs
end

theorem WellFormedList.of_mem {vs : List Value} (h : WellFormedList vs) {v : Value} (hv : v ∈ vs) :
    v.WellFormed := by
  induction vs with
  | nil => simp at hv
  | cons w ws ih =>
    simp only [WellFormedList] at h
    rcases List.mem_cons.1 hv with rfl | hv
    · exact h.1
    · exact ih h.2 hv

theorem WellFormedFields.of_mem {fs : List (String × Value)} (h : WellFormedFields fs) {k : String}
    {v : Value} (hv : (k, v) ∈ fs) : v.WellFormed := by
  induction fs with
  | nil => simp at hv
  | cons p ps ih =>
    obtain ⟨k', w⟩ := p
    simp only [WellFormedFields] at h
    rcases List.mem_cons.1 hv with hkv | hv
    · cases hkv
      exact h.1
    · exact ih h.2 hv

theorem toWireList_eq_map (vs : List Value) : toWireList vs = vs.map toWire := by
  induction vs with
  | nil => rfl
  | cons v vs ih => simp [toWireList, ih]

theorem toWireFields_eq_map (fs : List (String × Value)) :
    toWireFields fs = fs.map fun p => (p.1, p.2.toWire) := by
  induction fs with
  | nil => rfl
  | cons p ps ih =>
    obtain ⟨k, v⟩ := p
    simp [toWireFields, ih]

theorem bytesOfJson_bytesToJson (data : List UInt8) : bytesOfJson (bytesToJson data) = data := by
  simp only [bytesOfJson, bytesToJson, List.filterMap_map]
  conv => rhs; rw [← List.filterMap_some (l := data)]
  refine List.filterMap_congr fun b _ => ?_
  have hb : b.toNat < 256 := b.toNat_lt
  simp [Json.int, Json.asU64?, JsonNumber.asU64?, hb]

theorem toWire_number {x : Binary64} (h : x.isFinite = true) :
    toWire (.number x) = tagged "Number" (Json.float x) := by
  simp [toWire, Json.ofF64, h]

mutual
/-- The tagged form of a well-formed value stands for the value. -/
theorem ofWire_toWire (v : Value) (h : v.WellFormed) : ofWire v.toWire = v := by
  cases v with
  | null => rfl
  | bool b => rfl
  | number x =>
    rw [toWire_number h]
    rfl
  | string s => rfl
  | bytes data =>
    show bytes (bytesOfJson (bytesToJson data)) = _
    rw [bytesOfJson_bytesToJson]
  | json j => rfl
  | array items =>
    show array (ofWireList (toWireList items)) = _
    rw [ofWireList_toWireList items h]
  | object fields =>
    show object (ofWireFields (toWireFields fields)) = _
    rw [ofWireFields_toWireFields fields h.2]

theorem ofWireList_toWireList (vs : List Value) (h : WellFormedList vs) :
    ofWireList (toWireList vs) = vs := by
  cases vs with
  | nil => rfl
  | cons v vs =>
    show ofWire v.toWire :: ofWireList (toWireList vs) = _
    rw [ofWire_toWire v h.1, ofWireList_toWireList vs h.2]

theorem ofWireFields_toWireFields (fs : List (String × Value)) (h : WellFormedFields fs) :
    ofWireFields (toWireFields fs) = fs := by
  cases fs with
  | nil => rfl
  | cons p ps =>
    obtain ⟨k, v⟩ := p
    show (k, ofWire v.toWire) :: ofWireFields (toWireFields ps) = _
    rw [ofWire_toWire v h.1, ofWireFields_toWireFields ps h.2]
end

theorem depth_tagged (name : String) (c : Json) : (tagged name c).depth = c.depth + 1 := by
  have := Json.depth_pos c
  simp only [tagged, Json.depth, Json.depthFields]
  omega

end Value

namespace Wire.Shape

theorem mapM_ok_self {α ε : Type} {f : α → Except ε α} :
    ∀ {l : List α}, (∀ x ∈ l, f x = .ok x) → l.mapM f = .ok l
  | [], _ => rfl
  | x :: xs, h => by
    have hx := h x List.mem_cons_self
    have hxs := mapM_ok_self fun y hy => h y (List.mem_cons_of_mem x hy)
    simp only [List.mapM_cons, hx, hxs]
    rfl

/-- A tagged object is read by its tag, then its contents. -/
theorem decodeTagged_tagged (b : Bool) (dec : PartDecoder) (name : String) (c : Json) :
    decodeTagged b dec (Value.tagged name c) =
      (enumIndex b Value.variantNames (.string name)).bind fun v => decodeContents (dec b) v c := by
  rcases h : enumIndex b Value.variantNames (.string name) with e | v
  · simp [decodeTagged, Value.tagged, tagFirst, h]
    rfl
  · simp [decodeTagged, Value.tagged, tagFirst, h]
    cases hd : decodeContents (dec b) v c <;> simp [bind, Except.bind, hd, afterContents]

/-- With fuel for its depth, the tagged form of a well-formed value is its own normal form. -/
theorem decode_value_toWire (b : Bool) (fuel : Nat) :
    ∀ v : Value, v.WellFormed → v.toWire.depth ≤ fuel → decode b fuel .value v.toWire = .ok v.toWire := by
  induction fuel using Nat.strong_induction_on with
  | _ fuel ih =>
  intro v hv hd
  obtain _ | n := fuel
  · have := Json.depth_pos v.toWire
    omega
  show decodeTagged b (fun b => decode b n) v.toWire = _
  cases v with
  | null => rfl
  | bool x =>
    obtain _ | m := n
    · simp [Value.toWire, Value.depth_tagged, Json.depth] at hd
    · rw [Value.toWire, decodeTagged_tagged]
      rfl
  | number x =>
    rw [Value.toWire_number hv] at hd ⊢
    obtain _ | m := n
    · simp [Value.depth_tagged, Json.float, Json.depth] at hd
    · rw [decodeTagged_tagged]
      rfl
  | string s =>
    obtain _ | m := n
    · simp [Value.toWire, Value.depth_tagged, Json.depth] at hd
    · rw [Value.toWire, decodeTagged_tagged]
      rfl
  | bytes data =>
    rw [Value.toWire, Value.depth_tagged] at hd
    obtain _ | m := n
    · simp [Value.bytesToJson, Json.depth] at hd
    · rw [Value.toWire, decodeTagged_tagged]
      show (Except.map .array (((data.map fun x => Json.int x.toNat)).mapM
        (decode b m (.unsigned "u8" 255)))).map (Value.tagged "Bytes") = _
      rw [mapM_ok_self]
      · rfl
      · intro j hj
        have h1 := Json.depth_lt_of_mem_array hj
        obtain ⟨x, -, rfl⟩ := List.mem_map.1 hj
        have h2 : (Json.int x.toNat).depth = 1 := rfl
        simp only [Value.bytesToJson] at hd
        obtain _ | k := m
        · omega
        · have hx : x.toNat < 256 := x.toNat_lt
          simp only [decode, Json.int]
          rw [if_neg (by omega), if_neg (by simp; omega)]
  | json j =>
    rw [Value.toWire, decodeTagged_tagged]
    rfl
  | array items =>
    rw [Value.toWire, Value.depth_tagged] at hd
    obtain _ | m := n
    · simp [Json.depth] at hd
    · rw [Value.toWire, decodeTagged_tagged]
      show (Except.map .array ((Value.toWireList items).mapM (decode b m .value))).map
        (Value.tagged "Array") = _
      rw [mapM_ok_self]
      · rfl
      · intro w hw
        have h1 := Json.depth_lt_of_mem_array hw
        rw [Value.toWireList_eq_map] at hw
        obtain ⟨v, hv', rfl⟩ := List.mem_map.1 hw
        exact ih m (by omega) v (Value.WellFormedList.of_mem hv hv') (by omega)
  | object fields =>
    rw [Value.toWire, Value.depth_tagged] at hd
    obtain _ | m := n
    · simp [Json.depth] at hd
    · rw [Value.toWire, decodeTagged_tagged]
      show (Except.map Json.ofFields ((Value.toWireFields fields).mapM fun kv =>
        (decode b m .value kv.2).map (kv.1, ·))).map (Value.tagged "Object") = _
      rw [mapM_ok_self]
      · have hsorted : (Value.toWireFields fields).Pairwise fun a b => a.1 < b.1 := by
          rw [Value.toWireFields_eq_map, List.pairwise_map]
          exact hv.1
        simp only [Except.map, Json.ofFields_of_sorted hsorted]
      · intro kw hkw
        have h1 := Json.depth_lt_of_mem_object hkw
        rw [Value.toWireFields_eq_map] at hkw
        obtain ⟨⟨k, v⟩, hv', rfl⟩ := List.mem_map.1 hkw
        dsimp only at h1 ⊢
        rw [ih m (by omega) v (Value.WellFormedFields.of_mem hv.2 hv') (by omega)]
        rfl

/-! ## Records -/

/-- An object's field `p` read as the record's field of the same key gives `q`. -/
def Decodes (dec : Shape → Json → Except DecodeError Json)
    (fields : List (String × Shape × Option Json)) (p q : String × Json) : Prop :=
  p.1 = q.1 ∧ ∀ f ∈ fields, f.1 = p.1 → dec f.2.1 p.2 = .ok q.2

theorem Decodes.keys {dec : Shape → Json → Except DecodeError Json}
    {fields : List (String × Shape × Option Json)} {es ns : List (String × Json)}
    (h : List.Forall₂ (Decodes dec fields) es ns) : ns.map Prod.fst = es.map Prod.fst := by
  induction h with
  | nil => rfl
  | cons hpq _ ih => simp [ih, hpq.1]

section
variable {dec : Shape → Json → Except DecodeError Json} {fields : List (String × Shape × Option Json)}

/-- Filling the slot of a field of key `k` not read yet gives the slots of the fields read
with `k` last. -/
theorem set_lookups (hkeys : (fields.map Prod.fst).Nodup) {done : List (String × Json)}
    {i : Nat} {k : String} (hlen : i < fields.length) (hik : fields[i].1 = k)
    (hfree : k ∉ done.map Prod.fst) (v : Json) :
    (fields.map fun f => Json.lookup done f.1).set i (some v) =
      fields.map fun f => Json.lookup (done ++ [(k, v)]) f.1 := by
  refine List.ext_getElem (by simp) fun j hj _ => ?_
  have hj' : j < fields.length := by simpa using hj
  simp only [List.getElem_set, List.getElem_map, Json.lookup_append]
  by_cases hji : i = j
  · subst hji
    rw [if_pos rfl, hik, Json.lookup_eq_none.2 hfree]
    simp [Json.lookup]
  · have hne : fields[j].1 ≠ k := by
      have hj2 : j < (fields.map Prod.fst).length := by simpa using hj'
      have hi2 : i < (fields.map Prod.fst).length := by simpa using hlen
      intro heq
      have hsame : (fields.map Prod.fst)[j] = (fields.map Prod.fst)[i] := by simp [heq, hik]
      exact hji ((hkeys.getElem_inj_iff).1 hsame).symm
    simp [hji, Json.lookup, Ne.symm hne]

/-- Reading an object's fields, each of a declared key not read before and each decoding, fills
their slots with what they decode to, after the slots of the fields read in `done`. -/
theorem collectEntries_present (hkeys : (fields.map Prod.fst).Nodup) {es ns : List (String × Json)}
    (h : List.Forall₂ (Decodes dec fields) es ns) (done : List (String × Json))
    (hnodup : ((done ++ es).map Prod.fst).Nodup) (hmem : ∀ p ∈ es, p.1 ∈ fields.map Prod.fst) :
    collectEntries dec fields (fields.map fun f => Json.lookup done f.1) es =
      .ok (fields.map fun f => Json.lookup (done ++ ns) f.1) := by
  induction h generalizing done with
  | nil => simp [collectEntries]
  | @cons p q es' ns' hpq _ ih =>
    obtain ⟨k, v⟩ := p
    obtain ⟨k', v'⟩ := q
    obtain ⟨hk, hdec⟩ := hpq
    dsimp only at hk hdec
    subst hk
    have hk : k ∈ fields.map Prod.fst := hmem (k, v) List.mem_cons_self
    obtain ⟨i, hi⟩ : ∃ i, fieldIndex fields k = some i := by
      refine Option.isSome_iff_exists.1 ?_
      simpa [fieldIndex, List.findIdx?_isSome, List.any_eq_true] using hk
    obtain ⟨hlen, hik, -⟩ := List.findIdx?_eq_some_iff_getElem.1 hi
    have hik : fields[i].1 = k := by simpa using hik
    have hfree : k ∉ done.map Prod.fst := by
      intro hd
      simp only [List.map_append, List.map_cons] at hnodup
      exact (List.nodup_append.1 hnodup).2.2 k hd k List.mem_cons_self rfl
    have hslot : (fields.map fun f => Json.lookup done f.1).getD i none = none := by
      simp [List.getD_eq_getElem?_getD, hlen, hik, Json.lookup_eq_none.2 hfree]
    have hfield : dec (fields.getD i ("", .any, none)).2.1 v = .ok v' := by
      rw [List.getD_eq_getElem _ _ hlen]
      exact hdec _ (List.getElem_mem hlen) hik
    simp only [collectEntries, hi, hslot, Option.isSome_none, Bool.false_eq_true, if_false, hfield]
    rw [set_lookups hkeys hlen hik hfree v',
      ih (done ++ [(k, v')]) _ fun p hp => hmem p (List.mem_cons_of_mem _ hp)]
    · simp
    · simpa using hnodup

theorem fillAbsent_some (g : String × Shape × Option Json → Json) :
    ∀ fs : List (String × Shape × Option Json),
      fillAbsent fs (fs.map fun f => some (g f)) = .ok (fs.map fun f => (f.1, g f))
  | [] => rfl
  | (k, s, d) :: fs => by
    simp only [List.map_cons, fillAbsent, fillAbsent_some g fs]
    rfl

/-- A record given as an object holding each of its fields once, whose values read as `ns`:
the normal form has the fields in declaration order. -/
theorem decodeEntries_present (hkeys : (fields.map Prod.fst).Nodup) {es ns : List (String × Json)}
    (hperm : (es.map Prod.fst).Perm (fields.map Prod.fst))
    (h : List.Forall₂ (Decodes dec fields) es ns) :
    decodeEntries dec fields es =
      .ok (.object (fields.map fun f => (f.1, (Json.lookup ns f.1).getD .null))) := by
  have hstart : (fields.map fun _ => (none : Option Json)) = fields.map fun f => Json.lookup [] f.1 := by
    simp [Json.lookup]
  have hslots : (fields.map fun f => Json.lookup ns f.1) =
      fields.map fun f => some ((Json.lookup ns f.1).getD .null) := by
    refine List.map_congr_left fun f hf => ?_
    have : f.1 ∈ ns.map Prod.fst := by
      rw [Decodes.keys h, hperm.mem_iff]
      exact List.mem_map_of_mem hf
    obtain ⟨x, hx⟩ := Option.ne_none_iff_exists'.1 (mt Json.lookup_eq_none.1 (not_not.2 this))
    simp [hx]
  have hcollect := collectEntries_present hkeys h [] (by simpa using hperm.nodup_iff.2 hkeys)
    fun p hp => hperm.subset (List.mem_map_of_mem hp)
  simp only [List.nil_append] at hcollect
  simp only [decodeEntries, hstart, hcollect, hslots]
  show (fillAbsent fields (fields.map fun f => some ((Json.lookup ns f.1).getD .null)) >>=
    fun values => pure (Json.object values)) = _
  rw [fillAbsent_some]
  rfl

end

/-! ## Enumerations and fixed shapes -/

/-- A name of an enumeration is its own normal form. -/
theorem decodeEnum_name (b : Bool) {names : List String} {s : String} (h : s ∈ names) :
    decodeEnum b names (.string s) = .ok (.string s) := by
  obtain ⟨i, hi⟩ : ∃ i, names.findIdx? (· == s) = some i := by
    refine Option.isSome_iff_exists.1 ?_
    simpa [List.findIdx?_isSome, List.any_eq_true] using h
  obtain ⟨hlen, his, -⟩ := List.findIdx?_eq_some_iff_getElem.1 hi
  have his : names[i] = s := by simpa using his
  simp [decodeEnum, enumIndex, hi, Except.map, List.getElem?_eq_getElem hlen, his]

theorem decode_record (b : Bool) (n : Nat) (name : String)
    (fields : List (String × Shape × Option Json)) (es : List (String × Json)) :
    decode b (n + 1) (.record name fields) (.object es) = decodeEntries (decode b n) fields es := rfl

theorem decode_string (b : Bool) (n : Nat) (s : String) :
    decode b (n + 1) .string (.string s) = .ok (.string s) := rfl

theorem decode_unitEnum (b : Bool) (n : Nat) (names : List String) (j : Json) :
    decode b (n + 1) (.unitEnum names) j = decodeEnum b names j := rfl

theorem decode_option_null (b : Bool) (n : Nat) (inner : Shape) :
    decode b (n + 1) (.option inner) .null = .ok .null := rfl

theorem decode_option_string (b : Bool) (n : Nat) (s : String) :
    decode b (n + 2) (.option .string) (.string s) = .ok (.string s) := rfl

theorem decode_uuid (b : Bool) (n : Nat) (u : Uuid) :
    decode b (n + 1) .uuid (.string u.toText) = .ok (.string u.toText) := by
  simp [decode, Uuid.parse_toText]

theorem decode_timestamp (b : Bool) (n : Nat) {t : Timestamp} (ht : t.Valid) :
    decode b (n + 1) .timestamp (.string t.toText) = .ok (.string t.toText) := by
  simp [decode, Timestamp.parse_toText ht]

theorem decode_count (b : Bool) (n k : Nat) (hk : k < Nat.pow 2 64) :
    decode b (n + 1) Event.countShape (Json.int k) = .ok (Json.int k) := by
  have hk' : ¬ (Nat.pow 2 64 - 1 < k) := by omega
  simp only [decode, Event.countShape, Json.int, Int.toNat_natCast]
  rw [if_neg (by omega), if_neg hk']

end Wire.Shape

open Wire.Shape

/-! ## Messages and failures -/

/-- The stored form of a message with a well-formed body reads back as the message. -/
theorem Message.decode_toWire (b : Bool) (n : Nat) (m : Message) (hm : m.body.WellFormed)
    (hfuel : m.toWire.depth ≤ n) :
    ∃ normal, decode b (n + 1) Message.shape m.toWire = .ok normal ∧ Message.ofWire normal = m := by
  have hbody : m.body.toWire.depth < n := by
    have := Json.depth_lt_of_mem_object
      (show ("body", m.body.toWire) ∈ [("body", m.body.toWire), ("kind", Json.string m.kind)] by simp)
    simp only [Message.toWire] at hfuel
    omega
  obtain _ | n' := n
  · omega
  have hf : List.Forall₂ (Decodes (decode b (n' + 1)) [("kind", .string, none), ("body", .value, none)])
      [("body", m.body.toWire), ("kind", .string m.kind)]
      [("body", m.body.toWire), ("kind", .string m.kind)] := by
    simp [Decodes, decode_value_toWire b (n' + 1) m.body hm (by omega), decode_string]
  refine ⟨_, decodeEntries_present (by decide)
    (by simp only [List.map_cons, List.map_nil]; decide) hf, ?_⟩
  simp [Message.ofWire, Json.get?, Json.lookup, Json.asStr?, Value.ofWire_toWire m.body hm]

theorem RunState.ofName?_name (s : RunState) : RunState.ofName? s.name = some s := by
  cases s <;> rfl

theorem RunState.name_mem_names (s : RunState) : s.name ∈ RunState.names := by
  cases s <;> decide

theorem ErrorKind.ofName?_name (k : ErrorKind) : ErrorKind.ofName? k.name = some k := by
  cases k <;> rfl

theorem ErrorKind.name_mem_names (k : ErrorKind) : k.name ∈ ErrorKind.names := by
  cases k <;> decide

/-- The stored form of a failure reads back as the failure. -/
theorem Failure.decode_toWire (b : Bool) (n : Nat) (f : Failure) :
    ∃ normal, decode b (n + 3) Failure.shape f.toWire = .ok normal ∧ Failure.ofWire normal = f := by
  obtain ⟨kind, message, executorId⟩ := f
  have hkind : decode b (n + 2) (.unitEnum ErrorKind.names) (.string kind.name) =
      .ok (.string kind.name) := by
    rw [decode_unitEnum, decodeEnum_name b (ErrorKind.name_mem_names kind)]
  cases executorId with
  | none =>
    have hf : List.Forall₂ (Decodes (decode b (n + 2))
        [("kind", .unitEnum ErrorKind.names, none), ("message", .string, none),
          ("executor_id", .option .string, none)])
        [("executor_id", .null), ("kind", .string kind.name), ("message", .string message)]
        [("executor_id", .null), ("kind", .string kind.name), ("message", .string message)] := by
      simp [Decodes, hkind, decode_string, decode_option_null]
    refine ⟨_, decodeEntries_present (by decide)
      (by simp only [List.map_cons, List.map_nil]; decide) hf, ?_⟩
    simp [Failure.ofWire, Json.get?, Json.lookup, Json.asStr?, ErrorKind.ofName?_name]
  | some id =>
    have hf : List.Forall₂ (Decodes (decode b (n + 2))
        [("kind", .unitEnum ErrorKind.names, none), ("message", .string, none),
          ("executor_id", .option .string, none)])
        [("executor_id", .string id), ("kind", .string kind.name), ("message", .string message)]
        [("executor_id", .string id), ("kind", .string kind.name), ("message", .string message)] := by
      simp [Decodes, hkind, decode_string, decode_option_string]
    refine ⟨_, decodeEntries_present (by decide)
      (by simp only [List.map_cons, List.map_nil]; decide) hf, ?_⟩
    simp [Failure.ofWire, Json.get?, Json.lookup, Json.asStr?, ErrorKind.ofName?_name]

namespace Event

/-- An event the stored form writes exactly: its values are well formed, its counts fit 64 bits
and its instants are valid. -/
def WellFormed : Event → Prop
  | .started _ t => t.Valid
  | .status _ t => t.Valid
  | .superstepStarted n => n < Nat.pow 2 64
  | .executorInvoked _ n => n < Nat.pow 2 64
  | .executorCompleted _ n => n < Nat.pow 2 64
  | .superstepCompleted n => n < Nat.pow 2 64
  | .output _ v => v.WellFormed
  | .requestInfo _ _ m _ => m.body.WellFormed
  | .failed _ t => t.Valid

theorem splitTag_toWire (e : Event) :
    splitTag e.toWire = .ok (typeNames.idxOf e.typeName, .object e.fields) := by
  cases e <;> rfl

theorem depth_lt_of_mem_fields (e : Event) {k : String} {j : Json} (h : (k, j) ∈ e.fields) :
    j.depth < e.toWire.depth :=
  Json.depth_lt_of_mem_object (List.mem_append_left _ h)

/-- The fuel the record of an event is read with. -/
def recordFuel (e : Event) : Nat := 16 * (e.toWire.depth + 2) - 1

/-- The record of each kind of event declares each key once, and the event's stored fields
have exactly those keys. -/
theorem record_keys (e : Event) :
    ∃ name fields, shapes.getD (typeNames.idxOf e.typeName) .any = .record name fields ∧
      (fields.map Prod.fst).Nodup ∧ (e.fields.map Prod.fst).Perm (fields.map Prod.fst) := by
  cases e <;> exact ⟨_, _, rfl, by decide, by simp only [fields, List.map_cons, List.map_nil]; decide⟩

/-- An event whose stored fields read as `ns` under the record of its kind. -/
theorem decode_toWire_of (e : Event) (tag : Nat) {name : String}
    {fields : List (String × Wire.Shape × Option Json)} {ns : List (String × Json)}
    (htag : typeNames.idxOf e.typeName = tag) (hshape : shapes.getD tag .any = .record name fields)
    (h : List.Forall₂ (Decodes (Wire.Shape.decode true e.recordFuel) fields) e.fields ns) :
    decode e.toWire = .ok (ofWire tag
      (.object (fields.map fun f => (f.1, (Json.lookup ns f.1).getD .null)))) := by
  subst htag
  obtain ⟨name', fields', hshape', hkeys, hperm⟩ := record_keys e
  rw [hshape] at hshape'
  cases hshape'
  have hfuel : fuelFor e.toWire = e.recordFuel + 1 := by
    have := Json.depth_pos e.toWire
    simp only [fuelFor, recordFuel]
    omega
  have hread : decode e.toWire = (Wire.Shape.decode true (e.recordFuel + 1)
      (shapes.getD (typeNames.idxOf e.typeName) .any) (.object e.fields)).map
        (ofWire (typeNames.idxOf e.typeName)) := by
    simp only [decode, splitTag_toWire, hfuel, bind, Except.bind]
    cases Wire.Shape.decode true (e.recordFuel + 1) (shapes.getD (typeNames.idxOf e.typeName) .any)
      (.object e.fields) <;> rfl
  rw [hread, hshape, decode_record, decodeEntries_present hkeys hperm h]
  rfl

theorem decode_toWire (e : Event) (he : e.WellFormed) : decode e.toWire = .ok e := by
  have hfuel : 31 ≤ e.recordFuel := by
    have := Json.depth_pos e.toWire
    simp only [recordFuel]
    omega
  have hdeep : ∀ k j, (k, j) ∈ e.fields → j.depth + 30 ≤ e.recordFuel := by
    intro k j hkj
    have := depth_lt_of_mem_fields e hkj
    simp only [recordFuel]
    omega
  obtain ⟨n, hn⟩ : ∃ n, e.recordFuel = n + 3 := ⟨e.recordFuel - 3, by omega⟩
  rw [hn] at hdeep
  cases e with
  | started id t =>
    have hf : List.Forall₂ (Decodes (Wire.Shape.decode true (n + 3))
        [("run_id", .uuid, none), ("timestamp", .timestamp, none)])
        [("run_id", .string id.toText), ("timestamp", .string t.toText)]
        [("run_id", .string id.toText), ("timestamp", .string t.toText)] := by
      simp [Decodes, decode_uuid, decode_timestamp _ _ he]
    rw [decode_toWire_of _ 0 rfl rfl (hn ▸ hf)]
    simp [ofWire, text, time, Json.get?, Json.lookup, Json.asStr?, Uuid.parse_toText,
      Timestamp.parse_toText he]
  | status st t =>
    have hf : List.Forall₂ (Decodes (Wire.Shape.decode true (n + 3))
        [("state", .unitEnum RunState.names, none), ("timestamp", .timestamp, none)])
        [("state", .string st.name), ("timestamp", .string t.toText)]
        [("state", .string st.name), ("timestamp", .string t.toText)] := by
      simp [Decodes, decode_unitEnum, decodeEnum_name _ (RunState.name_mem_names st),
        decode_timestamp _ _ he]
    rw [decode_toWire_of _ 1 rfl rfl (hn ▸ hf)]
    simp [ofWire, text, time, Json.get?, Json.lookup, Json.asStr?, RunState.ofName?_name,
      Timestamp.parse_toText he]
  | superstepStarted k =>
    have hf : List.Forall₂ (Decodes (Wire.Shape.decode true (n + 3)) [("superstep", countShape, none)])
        [("superstep", Json.int k)] [("superstep", Json.int k)] := by
      simp [Decodes, decode_count _ _ _ he]
    rw [decode_toWire_of _ 2 rfl rfl (hn ▸ hf)]
    simp [ofWire, count, Json.get?, Json.lookup, Json.int, Json.asU64?, JsonNumber.asU64?]
  | executorInvoked id k =>
    have hf : List.Forall₂ (Decodes (Wire.Shape.decode true (n + 3))
        [("executor_id", .string, none), ("superstep", countShape, none)])
        [("executor_id", .string id), ("superstep", Json.int k)]
        [("executor_id", .string id), ("superstep", Json.int k)] := by
      simp [Decodes, decode_string, decode_count _ _ _ he]
    rw [decode_toWire_of _ 3 rfl rfl (hn ▸ hf)]
    simp [ofWire, text, count, Json.get?, Json.lookup, Json.asStr?, Json.int, Json.asU64?,
      JsonNumber.asU64?]
  | executorCompleted id k =>
    have hf : List.Forall₂ (Decodes (Wire.Shape.decode true (n + 3))
        [("executor_id", .string, none), ("superstep", countShape, none)])
        [("executor_id", .string id), ("superstep", Json.int k)]
        [("executor_id", .string id), ("superstep", Json.int k)] := by
      simp [Decodes, decode_string, decode_count _ _ _ he]
    rw [decode_toWire_of _ 4 rfl rfl (hn ▸ hf)]
    simp [ofWire, text, count, Json.get?, Json.lookup, Json.asStr?, Json.int, Json.asU64?,
      JsonNumber.asU64?]
  | superstepCompleted k =>
    have hf : List.Forall₂ (Decodes (Wire.Shape.decode true (n + 3)) [("superstep", countShape, none)])
        [("superstep", Json.int k)] [("superstep", Json.int k)] := by
      simp [Decodes, decode_count _ _ _ he]
    rw [decode_toWire_of _ 5 rfl rfl (hn ▸ hf)]
    simp [ofWire, count, Json.get?, Json.lookup, Json.int, Json.asU64?, JsonNumber.asU64?]
  | output id v =>
    have hv := hdeep "data" v.toWire (by simp [fields])
    have hf : List.Forall₂ (Decodes (Wire.Shape.decode true (n + 3))
        [("executor_id", .string, none), ("data", .value, none)])
        [("data", v.toWire), ("executor_id", .string id)]
        [("data", v.toWire), ("executor_id", .string id)] := by
      simp [Decodes, decode_string, decode_value_toWire true (n + 3) v he (by omega)]
    rw [decode_toWire_of _ 6 rfl rfl (hn ▸ hf)]
    simp [ofWire, text, Json.get?, Json.lookup, Json.asStr?, Value.ofWire_toWire v he]
  | requestInfo id src m k =>
    have hm := hdeep "data" m.toWire (by simp [fields])
    obtain ⟨normal, hnormal, hmsg⟩ := Message.decode_toWire true (n + 2) m he (by omega)
    have hf : List.Forall₂ (Decodes (Wire.Shape.decode true (n + 3))
        [("request_id", .string, none), ("source_executor_id", .string, none),
          ("data", Message.shape, none), ("response_kind", .string, none)])
        [("data", m.toWire), ("request_id", .string id), ("response_kind", .string k),
          ("source_executor_id", .string src)]
        [("data", normal), ("request_id", .string id), ("response_kind", .string k),
          ("source_executor_id", .string src)] := by
      simp [Decodes, decode_string, hnormal]
    rw [decode_toWire_of _ 7 rfl rfl (hn ▸ hf)]
    simp [ofWire, text, Json.get?, Json.lookup, Json.asStr?, hmsg]
  | failed d t =>
    obtain ⟨normal, hnormal, hfail⟩ := Failure.decode_toWire true n d
    have hf : List.Forall₂ (Decodes (Wire.Shape.decode true (n + 3))
        [("details", Failure.shape, none), ("timestamp", .timestamp, none)])
        [("details", d.toWire), ("timestamp", .string t.toText)]
        [("details", normal), ("timestamp", .string t.toText)] := by
      simp [Decodes, hnormal, decode_timestamp _ _ he]
    rw [decode_toWire_of _ 8 rfl rfl (hn ▸ hf)]
    simp [ofWire, time, text, Json.get?, Json.lookup, Json.asStr?, hfail, Timestamp.parse_toText he]

end Event


/-! ## The stored forms -/

theorem Value.decode_toWire (v : Value) (hv : v.WellFormed) : Value.decode v.toWire = .ok v := by
  have hfuel : v.toWire.depth ≤ fuelFor v.toWire := by
    simp only [fuelFor]
    omega
  simp only [Value.decode, check, decode_value_toWire false _ v hv hfuel, Except.map,
    Value.ofWire_toWire v hv]

/-- Every well-formed event and value reads back from its stored form, and the names of run
states and error kinds read back as what they name. -/
theorem storedForms_read_back (e : Event) (v : Value) (s : RunState) (k : ErrorKind)
    (he : e.WellFormed) (hv : v.WellFormed) :
    Event.decode e.toWire = .ok e ∧ Value.decode v.toWire = .ok v ∧
      RunState.ofName? s.name = some s ∧ ErrorKind.ofName? k.name = some k :=
  ⟨Event.decode_toWire e he, Value.decode_toWire v hv, RunState.ofName?_name s,
    ErrorKind.ofName?_name k⟩

/-- An output of an array holding a number and an object reads back, and so do its value, the
name of a run waiting for input and the name of an executor failure. -/
theorem nested_output_reads_back :
    Event.decode (Event.output "r" (.array [.number (Binary64.ofNat 3),
        .object [("a", .bool true), ("b", .null)]])).toWire =
      .ok (Event.output "r" (.array [.number (Binary64.ofNat 3),
        .object [("a", .bool true), ("b", .null)]])) ∧
    Value.decode (Value.array [.number (Binary64.ofNat 3),
        .object [("a", .bool true), ("b", .null)]]).toWire =
      .ok (.array [.number (Binary64.ofNat 3), .object [("a", .bool true), ("b", .null)]]) ∧
    RunState.ofName? RunState.idleWithPendingRequests.name = some .idleWithPendingRequests ∧
    ErrorKind.ofName? ErrorKind.executorFailure.name = some .executorFailure := by
  have hv : (Value.array [.number (Binary64.ofNat 3),
      .object [("a", .bool true), ("b", .null)]]).WellFormed := by
    simp only [Value.WellFormed, Value.WellFormedList, Value.WellFormedFields, and_true]
    exact ⟨by decide, by decide⟩
  exact storedForms_read_back (.output "r" _) _ .idleWithPendingRequests .executorFailure hv hv

/-! ## A number the stored text does not keep -/

/-- The stored text of an output of `3e23` reads back as an output of the double below it: the
reader multiplies `3` by the double nearest `10^23`, which is not exact, and the product rounds
down. -/
theorem output_text_reads_other_number :
    (Event.output "r" (.number (Binary64.ofNat (3 * Nat.pow 10 23)))).WellFormed ∧
    Json.parse (Event.output "r" (.number (Binary64.ofNat (3 * Nat.pow 10 23)))).toWire.render =
      .ok (Event.output "r" (.number ⟨false, 1100, 4437097088938097⟩)).toWire ∧
    Event.decode (Event.output "r" (.number ⟨false, 1100, 4437097088938097⟩)).toWire =
      .ok (Event.output "r" (.number ⟨false, 1100, 4437097088938097⟩)) ∧
    Binary64.ofNat (3 * Nat.pow 10 23) ≠ ⟨false, 1100, 4437097088938097⟩ := by
  refine ⟨?_, ?_, Event.decode_toWire _ ?_, ?_⟩
  · show (Binary64.ofNat (3 * Nat.pow 10 23)).isFinite = true
    decide
  · set_option maxRecDepth 100000 in rfl
  · show (Binary64.mk false 1100 4437097088938097).isFinite = true
    decide
  · set_option maxRecDepth 100000 in decide

end Superstep
