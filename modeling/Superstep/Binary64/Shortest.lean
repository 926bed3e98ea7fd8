import Superstep.Binary64.Basic

/-!
# The shortest decimal that reads back

Every finite double has a set of reals that round to it: the interval between the midpoints to
its two neighbours, ends included when its significand is even (ties go to even). Among the
decimals in that interval, `Binary64.shortest` picks one with the fewest significant digits,
and of those the one nearest to the double (an exact tie goes to the even digit string).

The search runs over 1, 2, … 17 digits. For `n` digits it looks only at the two neighbours of
the value on the grid of `n`-digit decimals: if any `n`-digit decimal lies in the interval, one
of those two does. All comparisons are exact products of natural numbers.
-/

namespace Superstep

/-- A decimal number `digits · 10^exp`. -/
structure Decimal where
  digits : Nat
  exp : Int
  deriving DecidableEq, Inhabited

namespace Decimal

/-- The decimal digits of `digits`, most significant first. -/
def digitString (d : Decimal) : String := String.ofList (Nat.toDigits 10 d.digits)

/-- The exponent of the leading digit: `d = d₀.d₁d₂… · 10^(d.leadExp)`. -/
def leadExp (d : Decimal) : Int := d.exp + ((Nat.toDigits 10 d.digits).length : Int) - 1

/-- Drops trailing zero digits into the exponent. -/
def normalize (d : Decimal) : Decimal :=
  go d.digits d.exp (Nat.toDigits 10 d.digits).length
where
  go (c : Nat) (k : Int) : Nat → Decimal
    | 0 => ⟨c, k⟩
    | fuel + 1 => if c ≠ 0 ∧ c % 10 = 0 then go (c / 10) (k + 1) fuel else ⟨c, k⟩

end Decimal

namespace Binary64

/-- The exponent `E` with `10^E ≤ n / d < 10^(E+1)`, for positive `n` and `d`. -/
def floorLog10 (n d : Nat) : Int :=
  if d ≤ n then ((Nat.toDigits 10 (n / d)).length : Int) - 1
  else
    let c := (d + n - 1) / n
    Int.neg (Nat.toDigits 10 (c - 1)).length

/-- The interval of reals that round to a finite nonzero double, as numerators over a common
denominator: `(low, value, high, denominator, ends included)`. -/
def roundingInterval (x : Binary64) : Nat × Nat × Nat × Nat × Bool :=
  let m := x.significand
  let q := x.scale
  let p := Nat.pow 2 q.toNat
  let den := 4 * Nat.pow 2 (-q).toNat
  -- below a power of two the gap to the lower neighbour is half as wide
  let low := if m = Nat.pow 2 52 ∧ -1074 < q then (4 * m - 1) * p else (4 * m - 2) * p
  (low, 4 * m * p, (4 * m + 2) * p, den, m % 2 == 0)

/-- The `n`-digit decimal in the rounding interval nearest to the value, if there is one. -/
def nearestWithDigits (x : Binary64) (n : Nat) : Option Decimal :=
  let (low, v, high, den, closed) := x.roundingInterval
  let e := floorLog10 v den
  let k : Int := e - n + 1
  -- a candidate `c · 10^k` is compared as `c * sc` against the bounds times `sb`
  let sc := if 0 ≤ k then Nat.pow 10 k.toNat * den else den
  let sb := if 0 ≤ k then 1 else Nat.pow 10 (-k).toNat
  let inside (c : Nat) : Bool :=
    let w := c * sc
    (decide (low * sb < w) || (closed && w == low * sb)) &&
      (decide (w < high * sb) || (closed && w == high * sb))
  let below := v * sb / sc
  let above := below + 1
  let dBelow := v * sb - below * sc
  let dAbove := above * sc - v * sb
  match inside below, inside above with
  | true, true =>
    if dBelow < dAbove then some ⟨below, k⟩
    else if dAbove < dBelow then some ⟨above, k⟩
    else if below % 2 = 0 then some ⟨below, k⟩ else some ⟨above, k⟩
  | true, false => some ⟨below, k⟩
  | false, true => some ⟨above, k⟩
  | false, false => none

/-- The shortest decimal that reads back as `x`, nearest to `x` among the shortest, for a
finite nonzero `x`; its digits carry no trailing zero. A zero gives `0 · 10^0`. -/
def shortest (x : Binary64) : Decimal :=
  if x.significand = 0 then ⟨0, 0⟩ else go 1 17
where
  go (n : Nat) : Nat → Decimal
    | 0 => (x.nearestWithDigits 17).getD ⟨0, 0⟩
    | fuel + 1 =>
      match x.nearestWithDigits n with
      | some d => d.normalize
      | none => go (n + 1) fuel

end Binary64

end Superstep
