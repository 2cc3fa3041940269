import ServiceLocation.Pattern.Escape
import ServiceLocation.Text.Reading

/-!
**Sets in brackets.**

Brackets hold characters, ranges, escapes, named ASCII classes and further brackets. Their sets are
united, or combined by `&&`, `--` and `~~`, which bind all alike and to the left.

* `Part`: the set of a part, and how deeply the part nests;
* `readBracket`: reading brackets.
-/

namespace ServiceLocation.Pattern

open ServiceLocation.Text

/-- A part of a set in brackets. -/
structure Part where
  /-- The characters it stands for. -/
  set : CharSet
  /-- How deeply it nests. -/
  depth : Nat

/-- Parts side by side. -/
structure Parts where
  /-- The characters of all of them. -/
  set : CharSet
  /-- Their number. -/
  count : Nat
  /-- How deeply the deepest nests. -/
  depth : Nat

namespace Parts

/-- No part. -/
def none : Parts := { set := .empty, count := 0, depth := 0 }

/-- One more part. -/
def add (parts : Parts) (part : Part) : Parts :=
  { set := parts.set.union part.set, count := parts.count + 1
    depth := max parts.depth part.depth }

/-- Parts side by side as one, which nests more deeply unless it is a single one. -/
def whole (parts : Parts) : Part :=
  { set := parts.set, depth := if parts.count ≤ 1 then parts.depth else parts.depth + 1 }

end Parts

/-- What is not finished where a bracket is read. -/
inductive Unfinished where
  /-- An opened bracket, and the parts in front of it. -/
  | bracket (outer : Parts) (negated : Bool)
  /-- The left operand of an operation that takes what `keep` says. -/
  | operation (keep : CharSet → CharSet → CharSet) (left : Part)

/-- The operation that ends with its right operand, if one waits for it. -/
def closeOperation (flags : Flags) (waiting : List Unfinished) (right : Part) :
    List Unfinished × Part :=
  match waiting with
  | .operation keep left :: below =>
    (below, { set := keep (flags.fold left.set) (flags.fold right.set)
              depth := max left.depth right.depth + 1 })
  | _ => (waiting, right)

/-- The named ASCII classes. -/
def asciiClasses : List (String × CharSet) :=
  [("alnum", ⟨[0x30, 0x3A, 0x41, 0x5B, 0x61, 0x7B]⟩), ("alpha", ⟨[0x41, 0x5B, 0x61, 0x7B]⟩),
   ("ascii", ⟨[0, 0x80]⟩), ("blank", ⟨[0x9, 0xA, 0x20, 0x21]⟩),
   ("cntrl", ⟨[0, 0x20, 0x7F, 0x80]⟩), ("digit", asciiDigit), ("graph", ⟨[0x21, 0x7F]⟩),
   ("lower", ⟨[0x61, 0x7B]⟩), ("print", ⟨[0x20, 0x7F]⟩),
   ("punct", ⟨[0x21, 0x30, 0x3A, 0x41, 0x5B, 0x61, 0x7B, 0x7F]⟩), ("space", asciiBlank),
   ("upper", ⟨[0x41, 0x5B]⟩), ("word", asciiWordCharacter),
   ("xdigit", ⟨[0x30, 0x3A, 0x41, 0x47, 0x61, 0x67]⟩)]

/-- Reads a named ASCII class behind its bracket: whether it is negated, and its set. -/
def readAsciiClass (text : List Char) : Option (Bool × CharSet × List Char) := do
  match text with
  | ':' :: rest =>
    let (negated, rest) := match rest with
      | '^' :: more => (true, more)
      | _ => (false, rest)
    let name := rest.takeWhile (· != ':')
    let (_, set) ← asciiClasses.find? (·.1.toList == name)
    match rest.drop name.length with
    | ':' :: ']' :: after => some (negated, set, after)
    | _ => none
  | _ => none

/-- Reads the dashes that stand for themselves at the start of a bracket. -/
def readDashes (flags : Flags) (parts : Parts) (text : List Char) : Parts × List Char :=
  match _counts : flags.skip text with
  | '-' :: rest => readDashes flags (parts.add ⟨.singleton '-', 0⟩) rest
  | start => (parts, start)
  termination_by text.length
  decreasing_by exact Flags.length_lt_of_skip _counts

/-- Reads the start of a bracket: whether it is negated, and a dash or bracket that comes first. -/
def readOpening (flags : Flags) (text : List Char) : Bool × Parts × List Char :=
  let (negated, rest) := match flags.skip text with
    | '^' :: more => (true, more)
    | start => (false, start)
  let (parts, rest) := readDashes flags .none rest
  match rest with
  | ']' :: more =>
    if parts.count = 0 then (negated, parts.add ⟨.singleton ']', 0⟩, more)
    else (negated, parts, rest)
  | _ => (negated, parts, rest)

/-- Reads a character or an escape in brackets. -/
def readItem (flags : Flags) (text : List Char) : Option (Escape × List Char) :=
  match text with
  | [] => none
  | '\\' :: rest => readEscape flags rest
  | c :: rest => some (.literal c false, rest)

/-- The set of a range; a range of bytes stays within ASCII. -/
def rangeSet? (flags : Flags) (first last : Char) : Option CharSet :=
  if last < first ∨ (!flags.unicode ∧ 0x7F < last.toNat) then none
  else some (.range first.toNat last.toNat)

/-- The set of an item; a place is none. -/
def itemSet? (flags : Flags) : Escape → Option CharSet
  | .literal c _ => rangeSet? flags c c
  | .chars set => some set
  | .look _ => none

/-- The character that decides whether a dash makes a range: the next one that counts. -/
def peekBehindDash (flags : Flags) (text : List Char) : Option Char :=
  if !flags.extended then text.head?
  else
    let next := match text.dropWhile isBlank with
      | '#' :: rest => rest.dropWhile isBlank
      | start => start
    (next.head?).or text.head?

/-- Reads an item or a range of items. -/
def readRange (flags : Flags) (text : List Char) : Option (CharSet × List Char) := do
  let (first, after) ← readItem flags text
  match flags.skip after with
  | '-' :: rest =>
    if peekBehindDash flags rest ∈ [some ']', some '-'] then
      some (← itemSet? flags first, '-' :: rest)
    else
      let (last, after) ← readItem flags (flags.skip rest)
      match first, last with
      | .literal low _, .literal high _ => some (← rangeSet? flags low high, after)
      | _, _ => none
  | rest => some (← itemSet? flags first, rest)

/-- Reads one more thing in brackets: a part, an operation, or the start or end of a bracket. -/
def bracketStep (flags : Flags) (state : List Unfinished × Parts) (text : List Char) :
    Option (Progress (List Unfinished × Parts) Part × List Char) := do
  let (waiting, parts) := state
  let operate (keep : CharSet → CharSet → CharSet) (rest : List Char) :
      Option (Progress (List Unfinished × Parts) Part × List Char) :=
    let (below, left) := closeOperation flags waiting parts.whole
    some (.more (.operation keep left :: below, .none), rest)
  match flags.skip text with
  | [] => none
  | '&' :: '&' :: rest => operate .inter rest
  | '-' :: '-' :: rest => operate .difference rest
  | '~' :: '~' :: rest => operate .symmDiff rest
  | '[' :: rest =>
    match readAsciiClass rest with
    | some (negated, set, after) =>
      some (.more (waiting, parts.add ⟨← flags.foldOrNegate? negated set, 0⟩), after)
    | none =>
      let (negated, inner, after) := readOpening flags rest
      some (.more (.bracket parts negated :: waiting, inner), after)
  | ']' :: rest =>
    match closeOperation flags waiting parts.whole with
    | (.bracket outer negated :: below, inside) =>
      let part : Part := ⟨← flags.foldOrNegate? negated inside.set, inside.depth + 1⟩
      if below.isEmpty then some (.done part, rest)
      else some (.more (below, outer.add part), rest)
    | _ => none
  | start =>
    let (set, after) ← readRange flags start
    some (.more (waiting, parts.add ⟨set, 0⟩), after)

/-- Reads a set in brackets behind the first bracket. -/
def readBracket (flags : Flags) (text : List Char) : Option (Part × List Char) :=
  let (negated, parts, rest) := readOpening flags text
  readLoop (bracketStep flags) ([.bracket .none negated], parts) rest

end ServiceLocation.Pattern
