import ServiceLocation.Unicode.CompositionTable

/-!
**The composed normal form.**

* `decompose`: every composite taken apart, again and again;
* `orderMarks`: the marks after a base character in the order of their combining classes;
* `composeFrom`: every base character joined with the marks that are not blocked from it;
* `composed`: the three steps one after the other.

Characters that decompose to a single character, and those that never result from composing, are
not taken apart: the mapping of domain names replaces them before a text gets here.
-/

namespace ServiceLocation.Unicode

namespace Hangul

/-- The first syllable. -/
def syllableBase : Nat := 0xAC00

/-- The first leading consonant. -/
def leadBase : Nat := 0x1100

/-- The first vowel. -/
def vowelBase : Nat := 0x1161

/-- One before the first trailing consonant. -/
def trailBase : Nat := 0x11A7

/-- Whether a code point is a syllable. -/
def isSyllable (code : Nat) : Bool := syllableBase ≤ code && code < syllableBase + 19 * 21 * 28

/-- The letters of a syllable. -/
def letters (code : Nat) : List Nat :=
  let index := code - syllableBase
  let lead := leadBase + index / (21 * 28)
  let vowel := vowelBase + index % (21 * 28) / 28
  if index % 28 = 0 then [lead, vowel] else [lead, vowel, trailBase + index % 28]

/-- The syllable of a lead and a vowel, or of an open syllable and a trail. -/
def join? (first second : Nat) : Option Nat :=
  if leadBase ≤ first && first < leadBase + 19 && vowelBase ≤ second && second < vowelBase + 21 then
    some (syllableBase + ((first - leadBase) * 21 + (second - vowelBase)) * 28)
  else if isSyllable first && (first - syllableBase) % 28 == 0 &&
      trailBase < second && second < trailBase + 28 then
    some (first + (second - trailBase))
  else none

end Hangul

/-- The pair that a composite is made of. -/
def pairOf? (code : Nat) : Option Composite := composites.find? (·.whole == code)

/-- A code point taken apart at most `depth` times in a row. -/
def decomposeCode : Nat → Nat → List Nat
  | 0, code => [code]
  | depth + 1, code =>
    if Hangul.isSyllable code then Hangul.letters code
    else match pairOf? code with
      | some pair => decomposeCode depth pair.first ++ [pair.second]
      | none => [code]

/-- No composite is taken apart more often than this. -/
def deepest : Nat := 4

/-- Every composite of a text taken apart. -/
def decompose (codes : List Nat) : List Nat :=
  codes.flatMap fun code => if code < 0xC0 then [code] else decomposeCode deepest code

/-- A mark put in front of marks in order, behind those of a lower class. -/
def insertMark (code : Nat) : List Nat → List Nat
  | [] => [code]
  | next :: rest =>
    if combiningClass next ≠ 0 ∧ combiningClass next < combiningClass code then
      next :: insertMark code rest
    else code :: next :: rest

/-- The marks after every base character in the order of their classes. -/
def orderMarks (codes : List Nat) : List Nat := codes.foldr insertMark []

/-- The character that two others compose to. -/
def compose? (first second : Nat) : Option Nat :=
  (Hangul.join? first second).or
    ((composites.find? fun pair => pair.first == first && pair.second == second).map (·.whole))

/--
Composing from a base character on. `marks` are the marks after it that did not compose, the last
one first; a mark of at most the class of the last of them is blocked.
-/
def composeFrom (base : Nat) (marks : List Nat) : List Nat → List Nat
  | [] => base :: marks.reverse
  | code :: rest =>
    let blocked := match marks with
      | [] => false
      | last :: _ => combiningClass code ≤ combiningClass last
    match (if blocked then none else compose? base code) with
    | some whole => composeFrom whole marks rest
    | none =>
      if combiningClass code = 0 then base :: marks.reverse ++ composeFrom code [] rest
      else composeFrom base (code :: marks) rest

/-- The composed normal form of a list of code points. -/
def composed (codes : List Nat) : List Nat :=
  match orderMarks (decompose codes) with
  | [] => []
  | base :: rest => composeFrom base [] rest

end ServiceLocation.Unicode
