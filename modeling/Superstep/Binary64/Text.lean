import Superstep.Binary64.Shortest

/-!
# Writing doubles as text

A double is written from its shortest decimal (`Binary64.shortest`). What differs between the
formats the engine writes is only the layout: which decimal exponents are written with a point
and which with an exponent, whether an integral value keeps `.0`, and the words for the values
that are not finite. A `Binary64.Layout` records those decisions; `Binary64.render` applies one.

* `Layout.json`: positional for decimal exponents -5 to 15, `.0` on integral values, otherwise
  `d.ddde±exp` with the sign always written (`1e+16`, `1e-7`); non-finite values are written
  `null`.
* `Layout.debug`: positional for magnitudes from `1e-4` below `1e16`, with `.0`; a positive
  exponent has no sign (`1e16`).
* `Layout.plain`: always positional, no `.0`.
-/

namespace Superstep

namespace Binary64

/-- The decisions that tell one way of writing a double from another. -/
structure Layout where
  /-- The least decimal exponent written positionally; `none` for no bound. -/
  plainFrom : Option Int
  /-- The greatest decimal exponent written positionally; `none` for no bound. -/
  plainUpto : Option Int
  /-- Whether a positional integral value ends in `.0`. -/
  pointZero : Bool
  /-- Whether a positive exponent is written with `+`. -/
  plusSign : Bool
  /-- The text of a NaN. -/
  nanText : String
  /-- The text of positive infinity; negative infinity is written with a leading `-`. -/
  infText : String

/-- The layout of numbers inside JSON text. A positive exponent keeps its sign: the engine's JSON
output writes `9.2e+18` and `1.8446744073709552e+19`, never `9.2e18`. -/
def Layout.json : Layout := ⟨some (-5), some 15, true, true, "null", "null"⟩

/-- The layout of a double in a debugging dump. -/
def Layout.debug : Layout := ⟨some (-4), some 15, true, false, "NaN", "inf"⟩

/-- The layout that never uses an exponent and never adds `.0`. -/
def Layout.plain : Layout := ⟨none, none, false, false, "NaN", "inf"⟩

/-- Whether a decimal exponent is written positionally under a layout. -/
def Layout.positional (l : Layout) (e : Int) : Bool :=
  (match l.plainFrom with | some a => decide (a ≤ e) | none => true) &&
    (match l.plainUpto with | some b => decide (e ≤ b) | none => true)

/-- `n` zero digits. -/
def zeros (n : Nat) : String := String.ofList (List.replicate n '0')

/-- The digits `s` with leading exponent `e`, written with a decimal point where needed. -/
def positionalText (l : Layout) (s : String) (e : Int) : String :=
  let n := s.length
  if (n : Int) - 1 ≤ e then
    s ++ zeros (e.toNat + 1 - n) ++ (if l.pointZero then ".0" else "")
  else if 0 ≤ e then
    String.ofList (s.toList.take (e.toNat + 1)) ++ "." ++ String.ofList (s.toList.drop (e.toNat + 1))
  else
    "0." ++ zeros ((-e).toNat - 1) ++ s

/-- The digits `s` with leading exponent `e`, written as `d.ddde<exp>`. -/
def exponentText (l : Layout) (s : String) (e : Int) : String :=
  let head := String.ofList (s.toList.take 1)
  let rest := String.ofList (s.toList.drop 1)
  head ++ (if rest.isEmpty then "" else "." ++ rest) ++ "e" ++
    (if l.plusSign && 0 ≤ e then "+" else "") ++ toString e

/-- A double written under a layout. -/
def render (l : Layout) (x : Binary64) : String :=
  let sign := if x.neg then "-" else ""
  if x.isNaN then l.nanText
  else if x.isInfinite then (if x.neg && l.infText != "null" then "-" else "") ++ l.infText
  else if x.isZero then sign ++ (if l.pointZero then "0.0" else "0")
  else
    let d := x.shortest
    let s := d.digitString
    let e := d.leadExp
    sign ++ (if l.positional e then positionalText l s e else exponentText l s e)

example : render .json (ofNat 9200000000000000000) = "9.2e+18" := by decide

end Binary64

end Superstep
