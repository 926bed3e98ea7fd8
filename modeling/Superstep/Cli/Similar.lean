import Superstep.Binary64.Basic

/-!
# Similar words

When a command line holds a word the program does not know, the parser suggests known words
that look alike. Likeness is the Jaro similarity of the two words, taken over characters and
computed in double precision, one rounded operation at a time, as

  `((m / |a| + m / |b|) + (m - t) / m) / 3`

where `m` counts the characters that match (equal, and no further apart than half the longer
word, less one) and `t` is half the number of matched pairs that are out of order. A word is
suggested when its similarity is above `0.7`; candidates come out from least to most similar,
words of equal likeness in their given order.
-/

namespace Superstep

namespace Cli

/-- Marks, for each character of `a`, whether it matched a character of `b` within `range`
positions, each character of `b` matching at most once. Returns the marks of `a` and of `b`. -/
def jaroMarks (a b : List Char) (range : Nat) : List Bool × List Bool :=
  let step (acc : List Bool × List Bool × Nat) (c : Char) : List Bool × List Bool × Nat :=
    let (marksA, marksB, i) := acc
    let lo := i - range
    let hi := min b.length (i + range + 1)
    let found := (List.range hi).find? fun j =>
      lo ≤ j && b.getD j ' ' == c && !marksB.getD j true
    match found with
    | some j => (marksA ++ [true], marksB.set j true, i + 1)
    | none => (marksA ++ [false], marksB, i + 1)
  let (marksA, marksB, _) := a.foldl step ([], b.map fun _ => false, 0)
  (marksA, marksB)

/-- The characters of a word whose marks are set, in order. -/
def marked (w : List Char) (marks : List Bool) : List Char :=
  (w.zip marks).filterMap fun (c, m) => if m then some c else none

/-- The Jaro similarity of two words, in double precision. -/
def jaro (a b : String) : Binary64 :=
  let a := a.toList
  let b := b.toList
  if a.isEmpty && b.isEmpty then Binary64.ofNat 1
  else if a.isEmpty || b.isEmpty then Binary64.zero
  else
    let range := max a.length b.length / 2 - 1
    let (marksA, marksB) := jaroMarks a b range
    let m := (marksA.filter id).length
    if m = 0 then Binary64.zero
    else
      let t := ((marked a marksA).zip (marked b marksB)).countP (fun (x, y) => x != y) / 2
      let first := Binary64.round false m 0 a.length
      let second := Binary64.round false m 0 b.length
      let third := Binary64.round false (m - t) 0 m
      (Binary64.addSameSign (Binary64.addSameSign first second) third).div (Binary64.ofNat 3)

/-- The least similarity of a suggested word, `0.7` in double precision. -/
def threshold : Binary64 := Binary64.round false 7 0 10

/-- Inserts a scored word after every word scored at most as high. -/
def insertByScore (w : Binary64 × String) : List (Binary64 × String) → List (Binary64 × String)
  | [] => [w]
  | x :: rest => if w.1.magnitudeLt x.1 then w :: x :: rest else x :: insertByScore w rest

/-- The known words similar to `word`, from least to most similar. -/
def similarWords (word : String) (known : List String) : List String :=
  let scored := known.filterMap fun k =>
    let score := jaro word k
    if threshold.magnitudeLt score then some (score, k) else none
  (scored.foldl (fun acc w => insertByScore w acc) []).map (·.2)

/-- The known word most similar to `word`, if any is similar enough. -/
def mostSimilar? (word : String) (known : List String) : Option String :=
  (similarWords word known).getLast?

end Cli

end Superstep
