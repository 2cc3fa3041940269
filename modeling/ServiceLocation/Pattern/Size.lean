import ServiceLocation.Pattern.Expression

/-!
**The size of an expression.**

A pattern is refused if an automaton over the bytes of UTF-8 that reads it, forward or backward,
takes more than `sizeLimit` bytes. What an automaton takes follows from the expression, so it need
not be built.

* `byteSequences`: an interval of code points as sequences of byte ranges;
* `forwardSet`, `backwardSet`: what a set takes. Forward, states that go on alike are one; backward,
  sequences share their first bytes;
* `Expr.size`: what an expression takes.
-/

namespace ServiceLocation.Pattern

open ServiceLocation.Text

/-- A range of bytes. -/
structure ByteRange where
  first : Nat
  last : Nat
  deriving BEq, DecidableEq, Hashable, Inhabited

/-- The bytes of a code point in UTF-8. -/
def codeBytes (code : Nat) : List Nat :=
  if code < 0x80 then [code]
  else if code < 0x800 then [0xC0 + code / 64, 0x80 + code % 64]
  else if code < 0x10000 then
    [0xE0 + code / 4096, 0x80 + code / 64 % 64, 0x80 + code % 64]
  else
    [0xF0 + code / 262144, 0x80 + code / 4096 % 64, 0x80 + code / 64 % 64, 0x80 + code % 64]

/-- The intervals that a cut behind `limit` leaves of an interval. -/
def cutBehind (limit : Nat) (interval : Nat × Nat) : List (Nat × Nat) :=
  if interval.1 ≤ limit ∧ limit < interval.2 then [(interval.1, limit), (limit + 1, interval.2)]
  else [interval]

/-- The parts of an interval of code points that are encoded in one length, without surrogates. -/
def lengthParts (interval : Nat × Nat) : List (Nat × Nat) :=
  let parts := [0x7F, 0x7FF, 0xD7FF, 0xDFFF, 0xFFFF].foldl
    (fun parts limit => parts.flatMap (cutBehind limit)) [interval]
  parts.filter fun part => !(0xD800 ≤ part.1 && part.2 ≤ 0xDFFF)

/--
The parts of an interval whose code points agree in front of the last `6 * level` bits, or that run
through all values of these bits.
-/
def alignedParts (level : Nat) (interval : Nat × Nat) : List (Nat × Nat) :=
  let block := Nat.pow 64 level
  if interval.1 / block = interval.2 / block then [interval]
  else
    let head := if interval.1 % block = 0 then [] else [(interval.1 / block + 1) * block - 1]
    let tail := if interval.2 % block = block - 1 then [] else [interval.2 / block * block - 1]
    (head ++ tail).foldl (fun parts limit => parts.flatMap (cutBehind limit)) [interval]

/-- The sequences of byte ranges that encode an interval of code points. -/
def byteSequences (interval : Nat × Nat) : List (List ByteRange) :=
  let parts := [1, 2, 3].foldl (fun parts level => parts.flatMap (alignedParts level))
    (lengthParts interval)
  parts.map fun part => (codeBytes part.1).zipWith (fun first last => ⟨first, last⟩)
    (codeBytes part.2)

/-- The bytes that a state takes, apart from those that its kind adds. -/
def stateSize : Nat := 32

/-- The bytes that a way on takes in a state with several ranges. -/
def transitionSize : Nat := 8

/-- The bytes that a way on takes in a state that goes on in several ways. -/
def branchSize : Nat := 4

/-- Sequences grouped by their first ranges, as far as equal ones stand together. -/
def groupByFirst (sequences : List (List ByteRange)) :
    List (ByteRange × List (List ByteRange)) :=
  sequences.foldr (fun sequence groups =>
    match sequence with
    | [] => groups
    | first :: rest =>
      match groups with
      | (other, members) :: more =>
        if first == other then (other, rest :: members) :: more
        else (first, [rest]) :: groups
      | [] => [(first, [rest])]) []

/-- A state of an automaton: its ranges with the numbers of the states behind them. -/
abbrev Ways := List (ByteRange × Nat)

/--
The number of the state from which the given sequences are read, among known states to which it is
added if it is new. State `0` is the end.
-/
def shareStates : Nat → List (List ByteRange) → List Ways → Nat × List Ways
  | 0, _, known => (0, known)
  | depth + 1, sequences, known =>
    let groups := groupByFirst sequences
    if groups.isEmpty then (0, known)
    else
      let (ways, known) := groups.foldl (fun (ways, known) (range, tails) =>
        let (target, known) := shareStates depth tails known
        ((range, target) :: ways, known)) (([] : Ways), known)
      match known.idxOf? ways with
      | some index => (known.length - index, known)
      | none => (known.length + 1, ways :: known)

/-- The sequences that encode a set. -/
def setSequences (set : CharSet) : List (List ByteRange) := set.intervals.flatMap byteSequences

/-- Whether a set holds ASCII alone. -/
def isAscii (set : CharSet) : Bool := set.boundaries.getLast?.all (· ≤ 0x80)

/-- What a set within ASCII takes, in either direction. -/
def asciiSet (set : CharSet) : Nat := 2 * stateSize + transitionSize * set.intervals.length

/-- What a set takes forward. -/
def forwardSet (set : CharSet) : Nat :=
  let (_, states) := shareStates 4 (setSequences set) []
  states.foldl (fun size ways => size + stateSize + transitionSize * ways.length) stateSize

/-- The number of different starts of the sequences of which equal ones stand together. -/
def countStarts : Nat → List (List ByteRange) → Nat
  | 0, _ => 0
  | depth + 1, sequences =>
    (groupByFirst sequences).foldl (fun count (_, tails) => count + 1 + countStarts depth tails) 0

/-- What a set takes backward. -/
def backwardSet (set : CharSet) : Nat :=
  let sequences := setSequences set
  stateSize * (2 + countStarts 4 sequences) + branchSize * sequences.length

/-- What a set takes: nothing but a failing state, a state for each byte, or a small automaton. -/
def setSize (ofSet : CharSet → Nat) (set : CharSet) : Nat :=
  match set.intervals with
  | [] => stateSize
  | [(first, last)] =>
    if first = last then stateSize * (codeBytes first).length
    else if isAscii set then asciiSet set else ofSet set
  | _ => if isAscii set then asciiSet set else ofSet set

/-- What a repetition takes whose body takes `once`. -/
def repeatedSize (once least : Nat) (most : Option Nat) (alwaysReads : Bool) : Nat :=
  let fork := stateSize + 2 * branchSize
  match most with
  | some most =>
    if least = most then least * once
    else least * once + (most - least) * (once + fork) + stateSize
  | none =>
    if least = 0 ∧ !alwaysReads then once + 2 * fork + stateSize
    else (max least 1) * once + fork

/-- What an expression takes, where `ofSet` tells it of a set and a group adds `groupSize`. -/
def Expr.size (ofSet : CharSet → Nat) (groupSize : Nat) : Expr → Nat
  | empty => stateSize
  | chars set => ofSet set
  | look _ => stateSize
  | group _ body => groupSize + body.size ofSet groupSize
  | seq first second => first.size ofSet groupSize + second.size ofSet groupSize
  | alt first second =>
    first.size ofSet groupSize + second.size ofSet groupSize + 2 * stateSize + 2 * branchSize
  | times body least most _ =>
    repeatedSize (body.size ofSet groupSize) least most body.alwaysReads

/-- The number of bytes that an automaton may take. -/
def sizeLimit : Nat := 10 * 1024 * 1024

/-- Whether both automata of an expression keep to the limit. -/
def fits (expr : Expr) : Bool :=
  expr.size (setSize forwardSet) (2 * stateSize) ≤ sizeLimit &&
    expr.size (setSize backwardSet) 0 ≤ sizeLimit

end ServiceLocation.Pattern
