/-!
# UUIDs

A `Uuid` is a 128-bit number. It is written as 32 lowercase hexadecimal digits in five groups of
8, 4, 4, 4 and 12 joined by hyphens. `Uuid.parse` also reads the 32 digits without hyphens (in
either case), the grouped form in braces and the grouped form after `urn:uuid:`, whose letters
may be of either case.

When a text is not a UUID, `Uuid.parse` says why. It looks at the *body*: the text without its
braces, then without a `urn:uuid:` prefix. Checking in this order, it reports
1. the first character of the body that is neither a hexadecimal digit nor a hyphen, with its
   place in the body counted from zero;
2. for a text with neither braces nor prefix and without hyphens, its length;
3. the number of groups of the body;
4. the first group of the wrong length;
5. otherwise, the length of the whole text, since the body is well formed but does not fit the
   wrapping around it.
Places and lengths count bytes.
-/

namespace Superstep

/-- A 128-bit universally unique identifier. -/
structure Uuid where
  value : Fin (Nat.pow 2 128)
  deriving DecidableEq, Inhabited

namespace Uuid

/-- Why a text is not a UUID. -/
inductive ParseError where
  | char (c : Char) (index : Nat)
  | length (len : Nat)
  | groupCount (count : Nat)
  | groupLength (group : Nat) (len : Nat)
  deriving DecidableEq

/-- The lengths of the five groups of the written form. -/
def groupLengths : List Nat := [8, 4, 4, 4, 12]

/-- The wording of a parse error. -/
def ParseError.message : ParseError → String
  | .char c i => "invalid character: found `" ++ c.toString ++ "` at " ++ toString i
  | .length n => "invalid length: found " ++ toString n
  | .groupCount n => "invalid group count: expected 5, found " ++ toString n
  | .groupLength g n =>
    "invalid group length in group " ++ toString g ++ ": expected " ++
      toString (groupLengths.getD g 0) ++ ", found " ++ toString n

/-- The value of an ASCII hexadecimal digit. -/
def nibble (c : Char) : Option Nat :=
  if '0' ≤ c ∧ c ≤ '9' then some (c.toNat - 48)
  else if 'a' ≤ c ∧ c ≤ 'f' then some (c.toNat - 87)
  else if 'A' ≤ c ∧ c ≤ 'F' then some (c.toNat - 55)
  else none

/-- The number written by exactly 32 hexadecimal digits. -/
def ofDigits (cs : List Char) : Option Uuid :=
  if cs.length = 32 then
    let step (acc : Option Nat) (c : Char) : Option Nat := do
      let a ← acc
      let d ← nibble c
      pure (16 * a + d)
    match cs.foldl step (some 0) with
    | some n => if h : n < Nat.pow 2 128 then some ⟨⟨n, h⟩⟩ else none
    | none => none
  else none

/-- The grouped form: 36 characters with hyphens at places 8, 13, 18 and 23. -/
def ofGrouped (cs : List Char) : Option Uuid :=
  if cs.length = 36 ∧ cs[8]? = some '-' ∧ cs[13]? = some '-' ∧ cs[18]? = some '-' ∧
      cs[23]? = some '-' then
    ofDigits (cs.take 8 ++ (cs.drop 9).take 4 ++ (cs.drop 14).take 4 ++ (cs.drop 19).take 4 ++
      cs.drop 24)
  else none

/-- The text between braces, when the text is braced. -/
def braced? (cs : List Char) : Option (List Char) :=
  match cs with
  | '{' :: rest => if rest.getLast? = some '}' then some rest.dropLast else none
  | _ => none

/-- The prefix of the URN form. -/
def urnPrefix : List Char := "urn:uuid:".toList

/-- The text after a `urn:uuid:` prefix written in any case, when it has one. -/
def afterUrn? (cs : List Char) : Option (List Char) :=
  if (cs.take 9).map Char.toLower = urnPrefix then some (cs.drop 9) else none

/-- The first character that cannot appear in a UUID, with its byte place, and otherwise the
byte places of the first four hyphens and the hyphen count. -/
def scan : List Char → Nat → List Nat → Nat → Except ParseError (List Nat × Nat)
  | [], _, bounds, count => .ok (bounds.reverse, count)
  | c :: cs, index, bounds, count =>
    if c = '-' then
      scan cs (index + 1) (if count < 4 then index :: bounds else bounds) (count + 1)
    else if (nibble c).isSome then scan cs (index + 1) bounds count
    else .error (.char c index)

/-- The first group whose hyphen is misplaced, with its length; for a body of `total` bytes
whose first four groups are right, the last group when it is not, and otherwise the length
`whole` of the text around the body. -/
def misplacedGroup (total whole : Nat) : List Nat → List Nat → Nat → ParseError
  | b :: bs, s :: t :: ss, g =>
    if b + 1 = t then misplacedGroup total whole bs (t :: ss) (g + 1)
    else .groupLength g (b - s)
  | _, _, _ => if total - 24 = 12 then .length whole else .groupLength 4 (total - 24)

/-- The body of a text: without its braces, then without a `urn:uuid:` prefix; and whether the
text had neither. -/
def body (cs : List Char) : List Char × Bool :=
  let (inner, wrapped) := match braced? cs with
    | some inner => (inner, true)
    | none => (cs, false)
  match afterUrn? inner with
  | some rest => (rest, false)
  | none => (inner, !wrapped)

/-- Why a text that does not parse is not a UUID. -/
def diagnose (s : String) : ParseError :=
  let (body, simple) := body s.toList
  match scan body 0 [] 0 with
  | .error e => e
  | .ok (bounds, count) =>
    if count = 0 ∧ simple then .length s.utf8ByteSize
    else if count ≠ 4 then .groupCount (count + 1)
    else misplacedGroup body.length s.utf8ByteSize bounds [0, 9, 14, 19, 24] 0

/-- Reads a UUID in any of its written forms. -/
def parse (s : String) : Except ParseError Uuid :=
  let cs := s.toList
  let n := s.utf8ByteSize
  let found : Option Uuid :=
    if n = 32 then ofDigits cs
    else if n = 36 then ofGrouped cs
    else if n = 38 then (braced? cs).bind ofGrouped
    else if n = 45 then (afterUrn? cs).bind ofGrouped
    else none
  match found with
  | some u => .ok u
  | none => .error (diagnose s)

/-- The lowercase hexadecimal digit of a value below 16. -/
def hexChar (n : Nat) : Char := if n < 10 then Char.ofNat (48 + n) else Char.ofNat (87 + n)

/-- The 32 hexadecimal digits of the value, most significant first. -/
def digits (u : Uuid) : List Char :=
  (List.range 32).reverse.map fun i => hexChar (u.value.val / Nat.pow 16 i % 16)

/-- The grouped lowercase form. -/
def toText (u : Uuid) : String :=
  let d := u.digits
  String.ofList (d.take 8 ++ ['-'] ++ (d.drop 8).take 4 ++ ['-'] ++ (d.drop 12).take 4 ++ ['-'] ++
    (d.drop 16).take 4 ++ ['-'] ++ d.drop 20)

/-- The `n`-th identifier of a run of generated ones: a version-4 UUID whose last 48 bits
count from one. -/
def generated (n : Nat) : Uuid :=
  let v := 0x40008000 * Nat.pow 2 48 + (n + 1) % Nat.pow 2 48
  if h : v < Nat.pow 2 128 then ⟨⟨v, h⟩⟩ else default

end Uuid

end Superstep
