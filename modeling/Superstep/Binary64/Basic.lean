/-!
# Binary64: IEEE 754 doubles as their three fields

A double is kept as the three fields of its bit pattern (sign, biased exponent, fraction), so
equality of values of this type is equality of bit patterns, and every operation is exact
arithmetic on natural numbers. The engine never adds or multiplies its numbers; it converts
them from and to integers, compares them, reads them from decimal text and prints them. Those
operations are defined here by their mathematical rule: the result of a conversion is the double
nearest to the exact value, ties to an even significand.

Main definitions:
* `Binary64.round`: the double nearest to `±n · 2^e / d`.
* `Binary64.ofInt`, `Binary64.toInt?`, `Binary64.truncSat`: conversions with integers.
* `Binary64.numEq`: numeric equality, under which `+0` and `-0` agree and a NaN equals nothing.
-/

namespace Superstep

/-- An IEEE 754 binary64 value, kept as its sign, biased exponent and fraction fields. -/
structure Binary64 where
  /-- The sign bit: `true` for a negative value or `-0`. -/
  neg : Bool
  /-- The biased exponent field; `2047` marks infinities and NaNs. -/
  exp : Fin 2048
  /-- The 52 stored bits of the significand. -/
  frac : Fin (Nat.pow 2 52)
  deriving DecidableEq, Inhabited

namespace Binary64

/-- Positive zero. -/
def zero : Binary64 := ⟨false, 0, 0⟩

/-- Positive infinity. -/
def infinity : Binary64 := ⟨false, 2047, 0⟩

/-- The quiet NaN with an empty payload. -/
def nan : Binary64 := ⟨false, 2047, ⟨Nat.pow 2 51, by decide⟩⟩

/-- Neither an infinity nor a NaN. -/
def isFinite (x : Binary64) : Bool := x.exp.val != 2047

/-- An infinity of either sign. -/
def isInfinite (x : Binary64) : Bool := x.exp.val == 2047 && x.frac.val == 0

/-- Not a number. -/
def isNaN (x : Binary64) : Bool := x.exp.val == 2047 && x.frac.val != 0

/-- The integer significand `m` of a finite value, with `|x| = m · 2^(x.scale)`. -/
def significand (x : Binary64) : Nat :=
  if x.exp.val = 0 then x.frac.val else x.frac.val + Nat.pow 2 52

/-- The binary exponent `q` of a finite value, with `|x| = x.significand · 2^q`. -/
def scale (x : Binary64) : Int :=
  if x.exp.val = 0 then -1074 else (x.exp.val : Int) - 1075

/-- A zero of either sign. -/
def isZero (x : Binary64) : Bool := x.exp.val == 0 && x.frac.val == 0

/-- The same magnitude with the other sign. -/
def negate (x : Binary64) : Binary64 := { x with neg := !x.neg }

/-- The magnitude, with the sign bit cleared. -/
def abs (x : Binary64) : Binary64 := { x with neg := false }

/-! ## Rounding an exact quotient -/

/-- The quotient `n / d` rounded to the nearest natural number, a tie going to the even one. -/
def roundHalfEven (n d : Nat) : Nat :=
  let q := n / d
  let r := n % d
  if 2 * r < d then q
  else if d < 2 * r then q + 1
  else if q % 2 = 0 then q else q + 1

/-- The rational `n · 2^e / d` as a plain fraction of natural numbers. -/
def scaledFraction (n : Nat) (e : Int) (d : Nat) : Nat × Nat :=
  if 0 ≤ e then (n * Nat.pow 2 e.toNat, d) else (n, d * Nat.pow 2 (-e).toNat)

/-- Whether the positive fraction `n / d` is at least `2 ^ k`. -/
def atLeastPow2 (n d : Nat) (k : Int) : Bool :=
  if 0 ≤ k then decide (d * Nat.pow 2 k.toNat ≤ n) else decide (d ≤ n * Nat.pow 2 (-k).toNat)

/-- The exponent `k` with `2^k ≤ n / d < 2^(k+1)`, for positive `n` and `d`. -/
def floorLog2 (n d : Nat) : Int :=
  let k : Int := (n.log2 : Int) - (d.log2 : Int)
  if atLeastPow2 n d k then k else k - 1

/-- The finite double with significand `m < 2^53` and binary exponent `q`, or infinity when
`q` is above the range. A significand below `2^52` is stored with the smallest exponent. -/
def encode (neg : Bool) (m : Nat) (q : Int) : Binary64 :=
  if 971 < q then { infinity with neg := neg }
  else if h : m < Nat.pow 2 52 then ⟨neg, 0, ⟨m, h⟩⟩
  else
    let e := (q + 1075).toNat
    if he : e < 2048 then ⟨neg, ⟨e, he⟩, ⟨m % Nat.pow 2 52, Nat.mod_lt _ (by decide)⟩⟩
    else { infinity with neg := neg }

/-- The double nearest to `n · 2^e / d` with sign `neg`, ties to an even significand; the value
overflows to an infinity and underflows to a zero of that sign. A zero denominator counts as
one. -/
def round (neg : Bool) (n : Nat) (e : Int) (d : Nat) : Binary64 :=
  let (num, den) := scaledFraction n e (max d 1)
  if num = 0 then ⟨neg, 0, 0⟩
  else
    -- the scale that leaves 53 significant bits, but never below the subnormal scale
    let q := max (floorLog2 num den - 52) (-1074)
    let (a, b) := scaledFraction num (-q) den
    let m := roundHalfEven a b
    if m = Nat.pow 2 53 then encode neg (Nat.pow 2 52) (q + 1) else encode neg m q

/-- The double nearest to an integer. -/
def ofInt (i : Int) : Binary64 := round (i < 0) i.natAbs 0 1

/-- The double nearest to a natural number. -/
def ofNat (n : Nat) : Binary64 := round false n 0 1

/-- The exact product of two finite doubles, rounded. -/
def mul (x y : Binary64) : Binary64 :=
  round (x.neg != y.neg) (x.significand * y.significand) (x.scale + y.scale) 1

/-- The exact quotient of two finite doubles, rounded; the divisor must not be zero. -/
def div (x y : Binary64) : Binary64 :=
  round (x.neg != y.neg) x.significand (x.scale - y.scale) y.significand

/-- The exact sum of two finite doubles of one sign, rounded; the sign is the first one's. -/
def addSameSign (x y : Binary64) : Binary64 :=
  let q := min x.scale y.scale
  round x.neg (x.significand * Nat.pow 2 (x.scale - q).toNat + y.significand * Nat.pow 2 (y.scale - q).toNat) q 1

/-- Whether the magnitude of a finite double is below the magnitude of another. -/
def magnitudeLt (x y : Binary64) : Bool :=
  let q := min x.scale y.scale
  decide (x.significand * Nat.pow 2 (x.scale - q).toNat < y.significand * Nat.pow 2 (y.scale - q).toNat)

/-! ## Integers inside doubles -/

/-- A finite value without a fractional part (the fractional part of a zero is zero). -/
def isIntegral (x : Binary64) : Bool :=
  x.isFinite && (0 ≤ x.scale || x.significand % Nat.pow 2 (-x.scale).toNat == 0)

/-- The magnitude rounded toward zero, for a finite value. -/
def truncMagnitude (x : Binary64) : Nat :=
  if 0 ≤ x.scale then x.significand * Nat.pow 2 x.scale.toNat
  else x.significand / Nat.pow 2 (-x.scale).toNat

/-- The integer a finite integral value denotes. -/
def toInt? (x : Binary64) : Option Int :=
  if x.isIntegral then
    let m : Int := x.truncMagnitude
    some (if x.neg then -m else m)
  else none

/-- Conversion to a signed integer of `bits` bits that rounds toward zero and saturates at the
ends of the range; a NaN becomes zero. -/
def truncSat (bits : Nat) (x : Binary64) : Int :=
  let hi : Int := Int.pow 2 (bits - 1) - 1
  let lo : Int := -(Int.pow 2 (bits - 1))
  if x.isNaN then 0
  else if x.isInfinite then (if x.neg then lo else hi)
  else
    let m : Int := x.truncMagnitude
    let v := if x.neg then -m else m
    if v < lo then lo else if hi < v then hi else v

/-- The magnitude is below `2 ^ k`. -/
def magnitudeBelowPow2 (x : Binary64) (k : Nat) : Bool :=
  let (n, d) := scaledFraction x.significand x.scale 1
  x.isFinite && (n == 0 || !atLeastPow2 n d k)

/-- Numeric equality: equal values, with `+0 = -0`, and a NaN equal to nothing. -/
def numEq (x y : Binary64) : Bool :=
  if x.isNaN || y.isNaN then false
  else if x.isZero && y.isZero then true
  else x == y

end Binary64

end Superstep
