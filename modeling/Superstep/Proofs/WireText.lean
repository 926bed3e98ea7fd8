import Mathlib
import Superstep.Proofs.Calendar
import Superstep.Wire.Uuid

/-!
# Reading back written identifiers and instants

The texts that the stored form uses for identifiers and instants read back as what was written:
`Uuid.parse_toText` for every identifier, `Timestamp.parse_toText` for every instant whose date
lies in the range of dates (`Timestamp.Valid`).

An instant is written through its fields in UTC (`Timestamp.toFields`, `Fields.utcText`), with a
leap second as second 60. Reading the text gives the fields back, one number at a time
(`fields_utcText`); combining them gives the instant back (`combine_toFields`).
-/

namespace Superstep

namespace Uuid

theorem nibble_hexChar : ∀ k < 16, nibble (hexChar k) = some k := by decide

theorem hexChar_utf8Size : ∀ k < 16, (hexChar k).utf8Size = 1 := by decide

theorem digits_eq (u : Uuid) :
    u.digits = (List.range 32).reverse.map fun i => hexChar (u.value.val / 16 ^ i % 16) := by
  simp [digits]

theorem length_digits (u : Uuid) : u.digits.length = 32 := by
  simp [digits]

theorem utf8Size_of_mem_digits {u : Uuid} {c : Char} (hc : c ∈ u.digits) : c.utf8Size = 1 := by
  rw [digits_eq] at hc
  obtain ⟨i, -, rfl⟩ := List.mem_map.1 hc
  exact hexChar_utf8Size _ (Nat.mod_lt _ (by norm_num))

/-- Reading hexadecimal digits, most significant first, after an accumulator `a`. -/
theorem foldl_hexDigits (v a : Nat) : ∀ k : Nat,
    ((List.range k).reverse.map fun i => hexChar (v / 16 ^ i % 16)).foldl
      (fun acc c => acc.bind fun a => (nibble c).bind fun d => some (16 * a + d)) (some a) =
      some (a * 16 ^ k + v % 16 ^ k)
  | 0 => by simp [Nat.mod_one]
  | k + 1 => by
    rw [List.range_succ, List.reverse_append, List.reverse_singleton, List.singleton_append,
      List.map_cons, List.foldl_cons]
    have hd : v / 16 ^ k % 16 < 16 := Nat.mod_lt _ (by norm_num)
    simp only [nibble_hexChar _ hd, Option.bind_some]
    rw [foldl_hexDigits v _ k, Nat.mod_pow_succ]
    congr 1
    ring

theorem ofDigits_digits (u : Uuid) : ofDigits u.digits = some u := by
  have hfold : u.digits.foldl (fun (acc : Option Nat) (c : Char) => do
      let a ← acc
      let x ← nibble c
      pure (16 * a + x)) (some 0) = some u.value.val := by
    show u.digits.foldl (fun acc c => acc.bind fun a => (nibble c).bind fun d => some (16 * a + d))
      (some 0) = _
    rw [digits_eq, foldl_hexDigits, Nat.mod_eq_of_lt (by simp)]
    simp
  rw [ofDigits, if_pos (length_digits u)]
  simp only [hfold]
  rw [dif_pos (by simp)]

/-- Taking the hyphens out of the grouped form gives the groups back. -/
theorem ungroup (g1 g2 g3 g4 g5 : List Char) (h1 : g1.length = 8) (h2 : g2.length = 4)
    (h3 : g3.length = 4) (h4 : g4.length = 4) :
    let cs := g1 ++ ['-'] ++ g2 ++ ['-'] ++ g3 ++ ['-'] ++ g4 ++ ['-'] ++ g5
    cs[8]? = some '-' ∧ cs[13]? = some '-' ∧ cs[18]? = some '-' ∧ cs[23]? = some '-' ∧
      cs.take 8 ++ (cs.drop 9).take 4 ++ (cs.drop 14).take 4 ++ (cs.drop 19).take 4 ++ cs.drop 24 =
        g1 ++ g2 ++ g3 ++ g4 ++ g5 := by
  intro cs
  simp [cs, List.getElem?_append_right, List.drop_append, h1, h2, h3, h4, List.drop_eq_nil_of_le]

theorem groups_append (d : List Char) :
    d.take 8 ++ (d.drop 8).take 4 ++ (d.drop 12).take 4 ++ (d.drop 16).take 4 ++ d.drop 20 = d := by
  have e20 : d.drop 20 = (d.drop 16).drop 4 := by simp [List.drop_drop]
  have e16 : d.drop 16 = (d.drop 12).drop 4 := by simp [List.drop_drop]
  have e12 : d.drop 12 = (d.drop 8).drop 4 := by simp [List.drop_drop]
  rw [List.append_assoc, List.append_assoc, List.append_assoc, e20, List.take_append_drop, e16,
    List.take_append_drop, e12, List.take_append_drop, List.take_append_drop]

theorem toText_toList (u : Uuid) :
    u.toText.toList = u.digits.take 8 ++ ['-'] ++ (u.digits.drop 8).take 4 ++ ['-'] ++
      (u.digits.drop 12).take 4 ++ ['-'] ++ (u.digits.drop 16).take 4 ++ ['-'] ++
      u.digits.drop 20 := by
  simp [toText]

theorem utf8Len_of_ascii {cs : List Char} (h : ∀ c ∈ cs, c.utf8Size = 1) :
    String.utf8Len cs = cs.length := by
  induction cs with
  | nil => rfl
  | cons c cs ih =>
    rw [String.utf8Len_cons, ih fun x hx => h x (List.mem_cons_of_mem c hx), h c List.mem_cons_self]
    rfl

/-- The grouped form has 36 bytes: its characters are ASCII. -/
theorem utf8ByteSize_toText (u : Uuid) : u.toText.utf8ByteSize = 36 := by
  have hascii : ∀ c ∈ u.toText.toList, c.utf8Size = 1 := by
    rw [toText_toList]
    intro c hc
    simp only [List.mem_append, List.mem_singleton] at hc
    rcases hc with ((((((((h | rfl) | h) | rfl) | h) | rfl) | h) | rfl) | h) <;>
      first
      | rfl
      | exact utf8Size_of_mem_digits (List.mem_of_mem_take h)
      | exact utf8Size_of_mem_digits (List.mem_of_mem_drop (List.mem_of_mem_take h))
      | exact utf8Size_of_mem_digits (List.mem_of_mem_drop h)
  rw [← String.ofList_toList (s := u.toText), String.utf8ByteSize_ofList, utf8Len_of_ascii hascii,
    toText_toList]
  simp [length_digits]

theorem ofGrouped_toText (u : Uuid) : ofGrouped u.toText.toList = some u := by
  have hlen := length_digits u
  obtain ⟨c8, c13, c18, c23, hregroup⟩ :=
    ungroup (u.digits.take 8) ((u.digits.drop 8).take 4) ((u.digits.drop 12).take 4)
      ((u.digits.drop 16).take 4) (u.digits.drop 20) (by simp [hlen]) (by simp [hlen])
      (by simp [hlen]) (by simp [hlen])
  have h36 : u.toText.toList.length = 36 := by simp [toText_toList, hlen]
  rw [ofGrouped, if_pos ⟨h36, toText_toList u ▸ c8, toText_toList u ▸ c13, toText_toList u ▸ c18,
    toText_toList u ▸ c23⟩, toText_toList, hregroup, groups_append, ofDigits_digits]

/-- An identifier reads back from its grouped form. -/
theorem parse_toText (u : Uuid) : parse u.toText = .ok u := by
  simp [parse, utf8ByteSize_toText, ofGrouped_toText]

end Uuid

namespace Timestamp

/-! ## Numbers written in places -/

theorem digit?_digitChar : ∀ d < 10, digit? (Nat.digitChar d) = some d := by decide

/-- Reading the decimal digits of `m` after `acc`, with at least as many places left. -/
theorem go_toDigits (m : Nat) : ∀ (k acc : Nat) (rest : List Char),
    acc * 10 ^ (Nat.toDigits 10 m).length + m < Nat.pow 2 63 →
    number.go (k + (Nat.toDigits 10 m).length) acc (Nat.toDigits 10 m ++ rest) =
      number.go k (acc * 10 ^ (Nat.toDigits 10 m).length + m) rest := by
  induction m using Nat.strong_induction_on with
  | _ m ih =>
  intro k acc rest hlt
  by_cases hm : m < 10
  · rw [Nat.toDigits_of_lt_base hm] at hlt ⊢
    simp only [List.length_singleton, pow_one, List.singleton_append] at hlt ⊢
    simp only [number.go, digit?_digitChar m hm]
    rw [if_neg (by rw [Nat.pow_eq] at hlt ⊢; omega)]
    ring_nf
  · have hsplit := Nat.toDigits_of_base_le (b := 10) (by norm_num) (by omega : 10 ≤ m)
    rw [hsplit] at hlt ⊢
    simp only [List.length_append, List.length_singleton, List.append_assoc,
      List.singleton_append] at hlt ⊢
    have hq : m / 10 < m := Nat.div_lt_self (by omega) (by norm_num)
    have hr : m % 10 < 10 := Nat.mod_lt _ (by norm_num)
    have hpow : acc * 10 ^ ((Nat.toDigits 10 (m / 10)).length + 1) + m =
        10 * (acc * 10 ^ (Nat.toDigits 10 (m / 10)).length + m / 10) + m % 10 := by
      rw [pow_succ, ← mul_assoc]
      generalize acc * 10 ^ (Nat.toDigits 10 (m / 10)).length = P
      omega
    rw [show k + ((Nat.toDigits 10 (m / 10)).length + 1) = (k + 1) + (Nat.toDigits 10 (m / 10)).length
      by omega, ih (m / 10) hq (k + 1) acc _ (by rw [hpow] at hlt; rw [Nat.pow_eq] at hlt ⊢; omega)]
    simp only [number.go, digit?_digitChar _ hr]
    rw [if_neg (by rw [← hpow]; rw [Nat.pow_eq] at hlt ⊢; omega), hpow]

theorem go_zeros (z : Nat) : ∀ (k : Nat) (rest : List Char),
    number.go (k + z) 0 (List.replicate z '0' ++ rest) = number.go k 0 rest := by
  induction z with
  | zero => simp
  | succ z ih =>
    intro k rest
    rw [show k + (z + 1) = (k + z) + 1 by omega, List.replicate_succ, List.cons_append]
    simp only [number.go, show digit? '0' = some 0 from rfl]
    rw [if_neg (by decide)]
    exact ih k rest

theorem padded_toList (w n : Nat) :
    (padded w n).toList = List.replicate (w - (Nat.toDigits 10 n).length) '0' ++ Nat.toDigits 10 n := by
  simp [padded, String.toList_append, Nat.toList_repr, ← String.length_toList]

theorem padded_length (w n : Nat) :
    (padded w n).toList.length = (w - (Nat.toDigits 10 n).length) + (Nat.toDigits 10 n).length := by
  simp [padded_toList]

theorem go_padded (w n k : Nat) (rest : List Char) (hn : n < Nat.pow 2 63) :
    number.go (k + (padded w n).toList.length) 0 ((padded w n).toList ++ rest) = number.go k n rest := by
  rw [padded_length, padded_toList, List.append_assoc,
    show k + (w - (Nat.toDigits 10 n).length + (Nat.toDigits 10 n).length) =
      (k + (Nat.toDigits 10 n).length) + (w - (Nat.toDigits 10 n).length) by omega,
    go_zeros, go_toDigits n k 0 rest (by simpa using hn)]
  simp

theorem padded_ne_nil (w n : Nat) : (padded w n).toList ≠ [] := by
  simp [padded_toList, Nat.toDigits_ne_nil]

theorem isDigit_of_mem_padded {w n : Nat} {c : Char} (h : c ∈ (padded w n).toList) : c.isDigit = true := by
  rw [padded_toList] at h
  rcases List.mem_append.1 h with h | h
  · rw [(List.mem_replicate.1 h).2]
    rfl
  · exact Nat.isDigit_of_mem_toDigits (by norm_num) (by norm_num) h

theorem toNat_of_isDigit {c : Char} (h : c.isDigit = true) : 48 ≤ c.toNat ∧ c.toNat ≤ 57 := by
  simp only [Char.isDigit, Bool.and_eq_true, decide_eq_true_eq] at h
  exact ⟨h.1, h.2⟩

theorem digit?_isSome_of_isDigit {c : Char} (h : c.isDigit = true) : (digit? c).isSome = true := by
  have h' : '0' ≤ c ∧ c ≤ '9' := by
    simp only [Char.isDigit, Bool.and_eq_true, decide_eq_true_eq] at h
    exact ⟨h.1, h.2⟩
  simp [digit?, h']

theorem isWhitespace_of_isDigit {c : Char} (h : c.isDigit = true) : Text.isWhitespace c = false := by
  have := toNat_of_isDigit h
  simp only [Text.isWhitespace]
  simp
  omega

/-- The text of a number as written, and what follows it, split at its first character. -/
theorem padded_cons (w n : Nat) (rest : List Char) :
    ∃ c cs, (padded w n).toList ++ rest = c :: cs ∧ c.isDigit = true := by
  obtain ⟨c, cs, hcs⟩ := List.exists_cons_of_ne_nil (padded_ne_nil w n)
  exact ⟨c, cs ++ rest, by rw [hcs, List.cons_append],
    isDigit_of_mem_padded (hcs ▸ List.mem_cons_self)⟩

theorem dropLeadingSpace_padded (w n : Nat) (rest : List Char) :
    Text.dropLeadingSpace ((padded w n).toList ++ rest) = (padded w n).toList ++ rest := by
  obtain ⟨c, cs, hcs, hc⟩ := padded_cons w n rest
  rw [hcs, Text.dropLeadingSpace, isWhitespace_of_isDigit hc, if_neg Bool.false_ne_true]

/-- Reading digits by `number`, once its first character is a digit. -/
theorem number_of_padded (k w n : Nat) (rest : List Char) :
    number k ((padded w n).toList ++ rest) = number.go k 0 ((padded w n).toList ++ rest) := by
  obtain ⟨c, cs, hcs, hc⟩ := padded_cons w n rest
  obtain ⟨d, hd⟩ := Option.isSome_iff_exists.1 (digit?_isSome_of_isDigit hc)
  rw [hcs, number]
  simp [hd]

/-- A number written in `w` places reads back from exactly those places. -/
theorem number_padded {w n : Nat} (rest : List Char) (hw0 : 0 < w) (hw : n < 10 ^ w)
    (hn : n < Nat.pow 2 63) : number w ((padded w n).toList ++ rest) = .ok (n, rest) := by
  have hL : (Nat.toDigits 10 n).length ≤ w := (Nat.length_toDigits_le_iff (by norm_num) hw0).2 hw
  have hlen : (padded w n).toList.length = w := by
    rw [padded_length]
    omega
  have := go_padded w n 0 rest hn
  rw [hlen, zero_add] at this
  rw [number_of_padded, this]
  rfl

/-- A number read with more places allowed than it has stops at the next character that is not a
digit. -/
theorem number_padded_then {k w n : Nat} {c : Char} (rest : List Char)
    (hk : (padded w n).toList.length < k) (hn : n < Nat.pow 2 63) (hc : digit? c = none) :
    number k ((padded w n).toList ++ c :: rest) = .ok (n, c :: rest) := by
  obtain ⟨j, hj⟩ : ∃ j, k = (j + 1) + (padded w n).toList.length := by
    generalize (padded w n).toList.length = L at hk ⊢
    exact ⟨k - L - 1, by omega⟩
  rw [number_of_padded, hj, go_padded w n (j + 1) _ hn]
  show number.go (j + 1) n (c :: rest) = _
  simp only [number.go, hc]

/-- A number written in `w` places, followed by a character that is not a digit, reads back
whenever at least `w` places are allowed. -/
theorem number_padded_le {k w n : Nat} {c : Char} (rest : List Char) (hwk : w ≤ k) (hw0 : 0 < w)
    (hw : n < 10 ^ w) (hn : n < Nat.pow 2 63) (hc : digit? c = none) :
    number k ((padded w n).toList ++ c :: rest) = .ok (n, c :: rest) := by
  have hL : (Nat.toDigits 10 n).length ≤ w := (Nat.length_toDigits_le_iff (by norm_num) hw0).2 hw
  have hlen : (padded w n).toList.length = w := by
    rw [padded_length]
    omega
  rcases Nat.lt_or_ge w k with hlt | hge
  · exact number_padded_then rest (by rw [hlen]; exact hlt) hn hc
  · obtain rfl : w = k := by omega
    exact number_padded _ hw0 hw hn

theorem padded_length_le {w n k : Nat} (hk0 : 0 < k) (hn : n < 10 ^ k) :
    (padded w n).toList.length ≤ w + k := by
  have hL := (Nat.length_toDigits_le_iff (by norm_num) hk0).2 hn
  rw [padded_length]
  omega

theorem field_padded {w lo hi n : Nat} (rest : List Char) (hw0 : 0 < w) (hw : n < 10 ^ w)
    (hn : n < Nat.pow 2 63) (hlo : lo ≤ n) (hhi : n ≤ hi) :
    field w lo hi ((padded w n).toList ++ rest) = .ok (n, rest) := by
  simp only [field, dropLeadingSpace_padded, number_padded rest hw0 hw hn, bind, Except.bind,
    if_pos (And.intro hlo hhi)]
  rfl

/-- A two-digit field within its bounds reads back. -/
theorem field_two {lo hi n : Nat} (rest : List Char) (hlo : lo ≤ n) (hhi : n ≤ hi) (h60 : hi ≤ 60) :
    field 2 lo hi ((padded 2 n).toList ++ rest) = .ok (n, rest) :=
  field_padded rest (by norm_num) (by omega) (by rw [Nat.pow_eq]; omega) hlo hhi

/-- The digits of a fraction written in `w ≤ 9` places read back as nanoseconds. -/
theorem fraction_padded {w n : Nat} {c : Char} (rest : List Char) (hw9 : w ≤ 9) (hw0 : 0 < w)
    (hw : n < 10 ^ w) (hc : digit? c = none) :
    fraction ((padded w n).toList ++ c :: rest) = .ok (n * Nat.pow 10 (9 - w), c :: rest) := by
  have hn : n < Nat.pow 2 63 := by
    have : 10 ^ w ≤ 10 ^ 9 := Nat.pow_le_pow_right (by norm_num) hw9
    have : (10 : Nat) ^ 9 < Nat.pow 2 63 := by decide
    omega
  have hL : (Nat.toDigits 10 n).length ≤ w := (Nat.length_toDigits_le_iff (by norm_num) hw0).2 hw
  have hlen : (padded w n).toList.length = w := by
    rw [padded_length]
    omega
  have hused : ((padded w n).toList ++ c :: rest).length - (c :: rest).length = w := by
    rw [List.length_append, hlen]
    omega
  simp only [fraction, number_padded_le rest hw9 hw0 hw hn hc, bind, Except.bind, pure,
    Except.pure, hused, List.dropWhile_cons, hc, Option.isSome_none, Bool.false_eq_true, if_false]

/-! ## The fields of a date and time -/

theorem pow31_of_year {y : Int} (hy : minYear ≤ y ∧ y ≤ maxYear) :
    -(Int.pow 2 31) ≤ y ∧ y < Int.pow 2 31 := by
  simp only [minYear, maxYear] at hy
  simp only [Int.pow_eq]
  norm_num
  omega

/-- The digits of a year after its sign read back, up to the hyphen after them. -/
theorem number_natAbs_year {y : Int} (hy : minYear ≤ y ∧ y ≤ maxYear) (rest : List Char) :
    number unbounded ((padded 4 y.natAbs).toList ++ '-' :: rest) = .ok (y.natAbs, '-' :: rest) := by
  have habs : y.natAbs < 10 ^ 6 := by
    simp only [minYear, maxYear] at hy
    omega
  have hlen : (padded 4 y.natAbs).toList.length < Nat.pow 2 64 := by
    have := padded_length_le (w := 4) (by norm_num) habs
    have : 4 + 6 < Nat.pow 2 64 := by decide
    omega
  have hsmall : y.natAbs < Nat.pow 2 63 := by
    have : (10 : Nat) ^ 6 < Nat.pow 2 63 := by decide
    omega
  exact number_padded_then rest hlen hsmall rfl

/-- The year of a date in the range of dates reads back from its text. -/
theorem year_yearText {y : Int} (hy : minYear ≤ y ∧ y ≤ maxYear) (rest : List Char) :
    year ((yearText y).toList ++ '-' :: rest) = .ok (y, '-' :: rest) := by
  have hrange := pow31_of_year hy
  -- In each branch the cast of the digits read is replaced by `y` before the range check: the
  -- check on a cast unfolds subtraction from the bound `2 ^ 31` one step at a time.
  simp only [yearText]
  split_ifs with h4 hneg
  · obtain ⟨c, cs, hcs, hc⟩ := padded_cons 4 y.toNat ('-' :: rest)
    have hc' := toNat_of_isDigit hc
    have hminus : c ≠ '-' := fun h => by subst h; simp at hc'
    have hplus : c ≠ '+' := fun h => by subst h; simp at hc'
    have hread : number 4 ((padded 4 y.toNat).toList ++ '-' :: rest) = .ok (y.toNat, '-' :: rest) :=
      number_padded _ (by norm_num) (by omega) (by rw [Nat.pow_eq]; omega)
    rw [hcs] at hread ⊢
    simp only [year, Text.dropLeadingSpace, isWhitespace_of_isDigit hc, Bool.false_eq_true,
      if_false]
    split
    · next r h => exact absurd (List.cons.inj h).1 hminus
    · next r h => exact absurd (List.cons.inj h).1 hplus
    · simp only [hread, Except.map]
      rw [show ((y.toNat : Nat) : Int) = y by omega]
      simp only [bind, Except.bind, if_pos hrange]
      rfl
  · have hchars : ("-" ++ padded 4 y.natAbs).toList ++ '-' :: rest =
        '-' :: ((padded 4 y.natAbs).toList ++ '-' :: rest) := by
      simp [String.toList_append]
    rw [hchars]
    simp only [year, Text.dropLeadingSpace, show Text.isWhitespace '-' = false from rfl,
      Bool.false_eq_true, if_false, number_natAbs_year hy, Except.map]
    rw [show -((y.natAbs : Nat) : Int) = y by omega]
    simp only [bind, Except.bind, if_pos hrange]
    rfl
  · have hchars : ("+" ++ padded 4 y.natAbs).toList ++ '-' :: rest =
        '+' :: ((padded 4 y.natAbs).toList ++ '-' :: rest) := by
      simp [String.toList_append]
    rw [hchars]
    simp only [year, Text.dropLeadingSpace, show Text.isWhitespace '+' = false from rfl,
      Bool.false_eq_true, if_false, number_natAbs_year hy, Except.map]
    rw [show ((y.natAbs : Nat) : Int) = y by omega]
    simp only [bind, Except.bind, if_pos hrange]
    rfl

/-- The fraction of a second is written as nothing, or a point and `w` digits that read back as
it. -/
theorem fractionText_cases {ns : Nat} (hns : ns < Nat.pow 10 9) :
    (ns = 0 ∧ (fractionText ns).toList = []) ∨
      ∃ w n, (fractionText ns).toList = '.' :: (padded w n).toList ∧ w ≤ 9 ∧ 0 < w ∧
        n < 10 ^ w ∧ n * Nat.pow 10 (9 - w) = ns := by
  rw [Nat.pow_eq] at hns
  unfold fractionText
  split_ifs with h0 h6 h3
  · exact Or.inl ⟨h0, rfl⟩
  · refine Or.inr ⟨3, ns / 1000000, by simp [String.toList_append], by norm_num, by norm_num,
      by omega, ?_⟩
    rw [Nat.pow_eq]
    omega
  · refine Or.inr ⟨6, ns / 1000, by simp [String.toList_append], by norm_num, by norm_num,
      by omega, ?_⟩
    rw [Nat.pow_eq]
    omega
  · exact Or.inr ⟨9, ns, by simp [String.toList_append], le_rfl, by norm_num, hns, by simp⟩

/-- A separator that is not white space is read as itself. -/
theorem literal_dropLeadingSpace {c : Char} (rest : List Char) (hc : Text.isWhitespace c = false) :
    literal c (Text.dropLeadingSpace (c :: rest)) = .ok rest := by
  simp [Text.dropLeadingSpace, hc, literal]

theorem offset_utc : offset (Text.dropLeadingSpace ['Z']) = .ok (0, []) := rfl

/-- The text in UTC of the fields of a date and time. -/
def Fields.utcText (f : Fields) : String :=
  yearText f.year ++ "-" ++ padded 2 f.month ++ "-" ++ padded 2 f.day ++ "T" ++ padded 2 f.hour ++
    ":" ++ padded 2 f.minute ++ ":" ++ padded 2 f.second ++ fractionText f.nano ++ "Z"

/-- Fields each within the range its reader accepts, in UTC. -/
structure Fields.InRange (f : Fields) : Prop where
  year_ge : minYear ≤ f.year
  year_le : f.year ≤ maxYear
  month_ge : 1 ≤ f.month
  month_le : f.month ≤ 12
  day_ge : 1 ≤ f.day
  day_le : f.day ≤ 31
  hour_le : f.hour ≤ 23
  minute_le : f.minute ≤ 59
  second_le : f.second ≤ 60
  nano_lt : f.nano < Nat.pow 10 9
  offset_eq : f.offset = 0

theorem Fields.utcText_toList (f : Fields) :
    f.utcText.toList = (yearText f.year).toList ++ '-' :: ((padded 2 f.month).toList ++ '-' ::
      ((padded 2 f.day).toList ++ 'T' :: ((padded 2 f.hour).toList ++ ':' ::
        ((padded 2 f.minute).toList ++ ':' :: ((padded 2 f.second).toList ++
          ((fractionText f.nano).toList ++ ['Z'])))))) := by
  simp [Fields.utcText, String.toList_append]

/-- Fields in range read back from their text. -/
theorem fields_utcText {f : Fields} (hf : f.InRange) : fields f.utcText.toList = .ok (f, []) := by
  rw [Fields.utcText_toList]
  simp only [fields, year_yearText ⟨hf.year_ge, hf.year_le⟩, bind, Except.bind,
    literal_dropLeadingSpace _ (rfl : Text.isWhitespace '-' = false),
    literal_dropLeadingSpace _ (rfl : Text.isWhitespace ':' = false),
    field_two _ hf.month_ge hf.month_le (by norm_num), field_two _ hf.day_ge hf.day_le (by norm_num),
    field_two _ (Nat.zero_le _) hf.hour_le (by norm_num),
    field_two _ (Nat.zero_le _) hf.minute_le (by norm_num),
    field_two _ (Nat.zero_le _) hf.second_le le_rfl, true_or, if_true, pure, Except.pure]
  rcases fractionText_cases hf.nano_lt with ⟨h0, htext⟩ | ⟨w, n, htext, hw9, hw0, hw, hval⟩
  · simp only [htext, List.nil_append, offset_utc]
    rw [← h0, ← hf.offset_eq]
    rfl
  · simp only [htext, List.cons_append,
      fraction_padded [] hw9 hw0 hw (rfl : digit? 'Z' = none), hval, offset_utc]
    rw [← hf.offset_eq]

/-! ## Instants -/

/-- An instant as the readers and writers of its text expect it: a second of the day, a leap
second only at the end of a minute, and a date in the range of dates. -/
structure Valid (t : Timestamp) : Prop where
  second_lt : t.second < 86400
  nano_lt : t.nano < 2 * Nat.pow 10 9
  leap : Nat.pow 10 9 ≤ t.nano → t.second % 60 = 59
  year_ge : minYear ≤ (civilFromDays t.day).1
  year_le : (civilFromDays t.day).1 ≤ maxYear

/-- The fields of an instant in UTC, with a leap second written as second 60. -/
def toFields (t : Timestamp) : Fields where
  year := (civilFromDays t.day).1
  month := (civilFromDays t.day).2.1
  day := (civilFromDays t.day).2.2
  hour := t.second / 3600
  minute := t.second / 60 % 60
  second := if Nat.pow 10 9 ≤ t.nano then t.second % 60 + 1 else t.second % 60
  nano := if Nat.pow 10 9 ≤ t.nano then t.nano - Nat.pow 10 9 else t.nano
  offset := 0

theorem toText_eq_utcText (t : Timestamp) : t.toText = t.toFields.utcText := by
  unfold toText toFields Fields.utcText
  split_ifs <;> rfl

theorem toFields_inRange {t : Timestamp} (ht : t.Valid) : t.toFields.InRange := by
  obtain ⟨hdate, -⟩ := civilFromDays_spec t.day
  have h31 : daysInMonth (civilFromDays t.day).1 (civilFromDays t.day).2.1 ≤ 31 := by
    unfold daysInMonth
    split_ifs <;> omega
  have hs := ht.second_lt
  have hn := ht.nano_lt
  have hl := ht.leap
  rw [Nat.pow_eq] at hn hl
  refine ⟨ht.year_ge, ht.year_le, hdate.month_ge, hdate.month_le, hdate.day_ge,
    hdate.day_le.trans h31, ?_, ?_, ?_, ?_, rfl⟩
  · show t.second / 3600 ≤ 23
    omega
  · show t.second / 60 % 60 ≤ 59
    omega
  · show (if Nat.pow 10 9 ≤ t.nano then t.second % 60 + 1 else t.second % 60) ≤ 60
    rw [Nat.pow_eq]
    split_ifs <;> omega
  · show (if Nat.pow 10 9 ≤ t.nano then t.nano - Nat.pow 10 9 else t.nano) < Nat.pow 10 9
    rw [Nat.pow_eq]
    split_ifs <;> omega

/-- Second 60 is read as the leap second it was written for: the second of the minute and the
nanoseconds that combining takes from the fields are those of the instant. -/
theorem toFields_leap {t : Timestamp} (ht : t.Valid) :
    ∃ sec, (if t.toFields.second = 60 then (59, Nat.pow 10 9 + t.toFields.nano)
      else (t.toFields.second, t.toFields.nano)) = (sec, t.nano) ∧
      3600 * (t.second / 3600) + 60 * (t.second / 60 % 60) + sec = t.second := by
  have hs := ht.second_lt
  by_cases hleap : Nat.pow 10 9 ≤ t.nano
  · have h59 := ht.leap hleap
    have h60 : t.toFields.second = 60 := by
      simp only [toFields, if_pos hleap]
      omega
    refine ⟨59, ?_, by omega⟩
    rw [if_pos h60]
    simp only [toFields, if_pos hleap, Prod.mk.injEq, true_and]
    omega
  · have h60 : t.toFields.second ≠ 60 := by
      simp only [toFields, if_neg hleap]
      omega
    refine ⟨t.second % 60, ?_, by omega⟩
    rw [if_neg h60]
    simp only [toFields, if_neg hleap]

/-- Combining the fields of a valid instant gives the instant back. -/
theorem combine_toFields {t : Timestamp} (ht : t.Valid) : combine t.toFields = .ok t := by
  obtain ⟨hdate, hinv⟩ := civilFromDays_spec t.day
  have hs := ht.second_lt
  have hyear : ¬ (t.toFields.year < minYear ∨ maxYear < t.toFields.year ∨
      daysInMonth t.toFields.year t.toFields.month < t.toFields.day) := by
    simp only [toFields]
    have := hdate.day_le
    have := ht.year_ge
    have := ht.year_le
    omega
  obtain ⟨sec, hpair, hlocal⟩ := toFields_leap ht
  unfold combine
  rw [if_neg hyear, if_neg (by simp [toFields]), hpair]
  have hloc : 3600 * (t.toFields.hour : Int) + 60 * (t.toFields.minute : Int) + (sec : Int) -
      t.toFields.offset = t.second := by
    simp only [toFields]
    omega
  have hdays : daysFromCivil t.toFields.year t.toFields.month t.toFields.day +
      (t.second : Int) / 86400 = t.day := by
    rw [show (t.second : Int) / 86400 = 0 by omega, add_zero]
    exact hinv
  have hmod : ((t.second : Int) % 86400).toNat = t.second := by omega
  simp only [hloc, hdays, hmod]
  rw [if_neg (by have := ht.year_ge; have := ht.year_le; omega)]

/-- A valid instant reads back from its text. -/
theorem parse_toText {t : Timestamp} (ht : t.Valid) : parse t.toText = .ok t := by
  simp only [parse, toText_eq_utcText, fields_utcText (toFields_inRange ht), bind, Except.bind]
  exact combine_toFields ht

end Timestamp

end Superstep
