import Superstep.Text.Space

/-!
# Timestamps

A `Timestamp` is an instant in UTC: a day counted from 1970-01-01, the second of that day, and
the nanosecond within that second, which runs past `10^9` during a leap second.

`Timestamp.parse` reads an RFC 3339 date and time with relaxed spacing: the date and time may be
separated by `T`, `t` or a space, white space may precede every number and follow every field,
the fraction of a second has any number of digits (only nine count), and the offset is `Z`,
`UTC` in any case, or a signed `hh:mm` (the colon may be left out or replaced by spaces). Each
field is checked against its range as soon as it is read; a day that its month does not have is
out of range when the fields are combined. The result is converted to UTC.

`Timestamp.toText` writes the RFC 3339 form in UTC with `Z`, with no fraction, or three, six or
nine fraction digits, whichever is the shortest exact one.
-/

namespace Superstep

/-- An instant in UTC. -/
structure Timestamp where
  /-- Days since 1970-01-01. -/
  day : Int
  /-- Seconds since the start of the day, below 86400. -/
  second : Nat
  /-- Nanoseconds since the start of the second; `10^9` and above only in a leap second. -/
  nano : Nat
  deriving DecidableEq, Inhabited

namespace Timestamp

/-- The first instant of 1970, the origin of the count of days. -/
def epoch : Timestamp := ⟨0, 0, 0⟩

/-! ## The civil calendar -/

/-- Whether a year of the proleptic Gregorian calendar is a leap year. -/
def isLeapYear (y : Int) : Bool := y % 4 == 0 && (y % 100 != 0 || y % 400 == 0)

/-- The number of days of a month. -/
def daysInMonth (y : Int) (m : Nat) : Nat :=
  if m = 2 then (if isLeapYear y then 29 else 28)
  else if m = 4 ∨ m = 6 ∨ m = 9 ∨ m = 11 then 30
  else 31

/-- The day number of a date, counted from 1970-01-01. -/
def daysFromCivil (y : Int) (m d : Nat) : Int :=
  let y := if m ≤ 2 then y - 1 else y
  let era := y / 400
  let yoe := y - era * 400
  let mp : Int := if 2 < m then (m : Int) - 3 else (m : Int) + 9
  let doy := (153 * mp + 2) / 5 + (d : Int) - 1
  let doe := yoe * 365 + yoe / 4 - yoe / 100 + doy
  era * 146097 + doe - 719468

/-- The date of a day number: year, month and day of the month. -/
def civilFromDays (z : Int) : Int × Nat × Nat :=
  let z := z + 719468
  let era := z / 146097
  let doe := z - era * 146097
  let yoe := (doe - doe / 1460 + doe / 36524 - doe / 146096) / 365
  let y := yoe + era * 400
  let doy := doe - (365 * yoe + yoe / 4 - yoe / 100)
  let mp := (5 * doy + 2) / 153
  let d := doy - (153 * mp + 2) / 5 + 1
  let m := if mp < 10 then mp + 3 else mp - 9
  (if m ≤ 2 then y + 1 else y, m.toNat, d.toNat)

/-- The least year a date may have. -/
def minYear : Int := -262143

/-- The greatest year a date may have. -/
def maxYear : Int := 262142

/-! ## Reading -/

/-- Why a text is not a date and time. -/
inductive ParseError where
  | outOfRange
  | impossible
  | notEnough
  | invalid
  | tooShort
  | tooLong
  deriving DecidableEq

/-- The wording of a parse error. -/
def ParseError.message : ParseError → String
  | .outOfRange => "input is out of range"
  | .impossible => "no possible date and time matching input"
  | .notEnough => "input is not enough for unique date and time"
  | .invalid => "input contains invalid characters"
  | .tooShort => "premature end of input"
  | .tooLong => "trailing input"

/-- The value of an ASCII digit. -/
def digit? (c : Char) : Option Nat :=
  if '0' ≤ c ∧ c ≤ '9' then some (c.toNat - 48) else none

/-- Reads up to `max` digits, at least one; a value past the signed 64-bit range is out of
range. -/
def number (max : Nat) (cs : List Char) : Except ParseError (Nat × List Char) :=
  match cs with
  | [] => .error .tooShort
  | c :: _ =>
    if (digit? c).isNone then .error .invalid
    else go max 0 cs
where
  go : Nat → Nat → List Char → Except ParseError (Nat × List Char)
    | 0, n, cs => .ok (n, cs)
    | k + 1, n, c :: cs =>
      match digit? c with
      | some d =>
        let n := 10 * n + d
        if Nat.pow 2 63 ≤ n then .error .outOfRange else go k n cs
      | none => .ok (n, c :: cs)
    | _ + 1, n, [] => .ok (n, [])

/-- Reads a literal character. -/
def literal (lit : Char) (cs : List Char) : Except ParseError (List Char) :=
  match cs with
  | [] => .error .tooShort
  | c :: rest => if c = lit then .ok rest else .error .invalid

/-- Reads a number after optional white space and checks it lies in `[lo, hi]`. -/
def field (width lo hi : Nat) (cs : List Char) : Except ParseError (Nat × List Char) := do
  let (n, rest) ← number width (Text.dropLeadingSpace cs)
  if lo ≤ n ∧ n ≤ hi then pure (n, rest) else .error .outOfRange

/-- A count of digits no real input reaches, for numbers without a width. -/
def unbounded : Nat := Nat.pow 2 64

/-- Reads the year: four digits, or any number of digits after a sign. -/
def year (cs : List Char) : Except ParseError (Int × List Char) := do
  let cs := Text.dropLeadingSpace cs
  let (y, rest) ← match cs with
    | '-' :: r => (number unbounded r).map fun (n, r) => (-(n : Int), r)
    | '+' :: r => (number unbounded r).map fun (n, r) => ((n : Int), r)
    | _ => (number 4 cs).map fun (n, r) => ((n : Int), r)
  if -(Int.pow 2 31) ≤ y ∧ y < Int.pow 2 31 then pure (y, rest) else .error .outOfRange

/-- Reads the fraction of a second after its point: the first nine digits count, later ones are
skipped. -/
def fraction (cs : List Char) : Except ParseError (Nat × List Char) := do
  let (n, rest) ← number 9 cs
  let used := cs.length - rest.length
  pure (n * Nat.pow 10 (9 - used), rest.dropWhile fun c => (digit? c).isSome)

/-- The two bytes of a two-digit group, or why they are missing. -/
def twoChars (cs : List Char) : Except ParseError (Char × Char × List Char) :=
  match cs with
  | a :: b :: rest => .ok (a, b, rest)
  | [a] => if 2 ≤ a.utf8Size then .ok (a, a, []) else .error .tooShort
  | [] => .error .tooShort

/-- Reads a numeric offset after its sign, in seconds. -/
def offsetDigits (cs : List Char) : Except ParseError (Nat × List Char) := do
  let (h1, h2, rest) ← twoChars cs
  let hours ← match digit? h1, digit? h2 with
    | some a, some b => pure (10 * a + b)
    | _, _ => .error .invalid
  let rest := rest.dropWhile fun c => c = ':' || Text.isWhitespace c
  let (m1, m2, rest) ← match twoChars rest with
    | .ok r => pure r
    | .error _ => .error .tooShort
  match digit? m1, digit? m2 with
  | some a, some b =>
    if a ≤ 5 then pure (3600 * hours + 60 * (10 * a + b), rest) else .error .outOfRange
  | _, _ => .error .invalid

/-- Reads the offset from UTC, in seconds east. -/
def offset (cs : List Char) : Except ParseError (Int × List Char) :=
  match cs with
  | a :: b :: c :: rest =>
    if a.toLower = 'u' ∧ b.toLower = 't' ∧ c.toLower = 'c' then .ok (0, rest)
    else signed cs
  | _ => signed cs
where
  signed (cs : List Char) : Except ParseError (Int × List Char) :=
    match cs with
    | 'Z' :: rest | 'z' :: rest => .ok (0, rest)
    | '+' :: rest => (offsetDigits rest).map fun (n, r) => ((n : Int), r)
    | '-' :: rest | '−' :: rest => (offsetDigits rest).map fun (n, r) => (-(n : Int), r)
    | _ :: _ => .error .invalid
    | [] => .error .tooShort

/-- The fields of a date and time as written, before they are combined. -/
structure Fields where
  year : Int
  month : Nat
  day : Nat
  hour : Nat
  minute : Nat
  second : Nat
  nano : Nat
  offset : Int

/-- Reads the fields of a relaxed RFC 3339 date and time. -/
def fields (cs : List Char) : Except ParseError (Fields × List Char) := do
  let (y, cs) ← year cs
  let cs ← literal '-' (Text.dropLeadingSpace cs)
  let (mo, cs) ← field 2 1 12 cs
  let cs ← literal '-' (Text.dropLeadingSpace cs)
  let (d, cs) ← field 2 1 31 cs
  let cs ← match cs with
    | c :: rest => if c = 'T' ∨ c = 't' ∨ c = ' ' then pure rest else .error .invalid
    | [] => .error .tooShort
  let (h, cs) ← field 2 0 23 cs
  let cs ← literal ':' (Text.dropLeadingSpace cs)
  let (mi, cs) ← field 2 0 59 cs
  let cs ← literal ':' (Text.dropLeadingSpace cs)
  let (s, cs) ← field 2 0 60 cs
  let (ns, cs) ← match cs with
    | '.' :: rest => fraction rest
    | _ => pure (0, cs)
  let (off, cs) ← offset (Text.dropLeadingSpace cs)
  pure (⟨y, mo, d, h, mi, s, ns, off⟩, cs)

/-- Combines the fields into an instant in UTC. -/
def combine (f : Fields) : Except ParseError Timestamp :=
  if f.year < minYear ∨ maxYear < f.year ∨ daysInMonth f.year f.month < f.day then .error .outOfRange
  else if 86400 ≤ f.offset.natAbs then .error .outOfRange
  else
    let (sec, nano) := if f.second = 60 then (59, Nat.pow 10 9 + f.nano) else (f.second, f.nano)
    let local_ : Int := 3600 * f.hour + 60 * f.minute + sec - f.offset
    let day := daysFromCivil f.year f.month f.day + local_ / 86400
    let (y, _, _) := civilFromDays day
    if y < minYear ∨ maxYear < y then .error .impossible
    else .ok ⟨day, (local_ % 86400).toNat, nano⟩

/-- Reads a date and time and converts it to UTC. -/
def parse (s : String) : Except ParseError Timestamp := do
  let (f, rest) ← fields s.toList
  if (Text.dropLeadingSpace rest).isEmpty then combine f else .error .tooLong

/-! ## Writing -/

/-- A number written with at least `width` digits. -/
def padded (width n : Nat) : String :=
  let s := toString n
  String.ofList (List.replicate (width - s.length) '0') ++ s

/-- The year: four digits from 0 to 9999, otherwise a sign and at least four digits. -/
def yearText (y : Int) : String :=
  if 0 ≤ y ∧ y ≤ 9999 then padded 4 y.toNat
  else (if y < 0 then "-" else "+") ++ padded 4 y.natAbs

/-- The fraction of a second: none, or the shortest of three, six or nine digits that is
exact. -/
def fractionText (nano : Nat) : String :=
  if nano = 0 then ""
  else if nano % 1000000 = 0 then "." ++ padded 3 (nano / 1000000)
  else if nano % 1000 = 0 then "." ++ padded 6 (nano / 1000)
  else "." ++ padded 9 nano

/-- The RFC 3339 form in UTC; a leap second is written as second 60. -/
def toText (t : Timestamp) : String :=
  let (y, m, d) := civilFromDays t.day
  let (sec, nano) := if Nat.pow 10 9 ≤ t.nano then (t.second % 60 + 1, t.nano - Nat.pow 10 9)
    else (t.second % 60, t.nano)
  yearText y ++ "-" ++ padded 2 m ++ "-" ++ padded 2 d ++ "T" ++ padded 2 (t.second / 3600) ++
    ":" ++ padded 2 (t.second / 60 % 60) ++ ":" ++ padded 2 sec ++ fractionText nano ++ "Z"

end Timestamp

end Superstep
