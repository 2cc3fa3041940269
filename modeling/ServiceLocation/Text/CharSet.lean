/-!
**Sets of code points.**

A set is the increasing list of the code points at which membership changes, starting outside:
`[0x30, 0x3A]` holds the ten ASCII digits.

* `contains`: membership;
* `combine`: any Boolean combination of two sets, in one walk over both;
* `union`, `inter`, `difference`, `symmDiff`, `complement`: the usual ones;
* `intervals`: the set as closed intervals.
-/

namespace ServiceLocation.Text

/-- A set of code points, as the increasing list of its boundaries. -/
structure CharSet where
  /-- The code points at which membership changes. -/
  boundaries : List Nat
  deriving Repr, DecidableEq, Inhabited

namespace CharSet

/-- Whether `code` is inside, for a walk that is at `inside` before the first boundary. -/
def insideAt (inside : Bool) : List Nat → Nat → Bool
  | [], _ => inside
  | boundary :: rest, code => if code < boundary then inside else insideAt (!inside) rest code

/-- Membership of a code point. -/
def containsCode (set : CharSet) (code : Nat) : Bool := insideAt false set.boundaries code

/-- Membership of a character. -/
def contains (set : CharSet) (c : Char) : Bool := set.containsCode c.toNat

/-- The set of no code point. -/
def empty : CharSet := ⟨[]⟩

/-- The set of the code points from `first` to `last`. -/
def range (first last : Nat) : CharSet := if first ≤ last then ⟨[first, last + 1]⟩ else empty

/-- The set of one character. -/
def singleton (c : Char) : CharSet := range c.toNat c.toNat

/-- The code points a set can hold lie below this one. -/
def limit : Nat := 0x110000

/-- Every code point. -/
def all : CharSet := ⟨[0, limit]⟩

/--
The boundaries of a Boolean combination. `first` and `second` say which side of its last
boundary each set is on, and `current` which side the combination is on.
-/
def merge (keep : Bool → Bool → Bool) (first second current : Bool) :
    List Nat → List Nat → List Nat
  | [], [] => []
  | a :: rest, [] =>
    let now := keep (!first) second
    if now == current then merge keep (!first) second current rest []
    else a :: merge keep (!first) second now rest []
  | [], b :: rest =>
    let now := keep first (!second)
    if now == current then merge keep first (!second) current [] rest
    else b :: merge keep first (!second) now [] rest
  | a :: left, b :: right =>
    if a < b then
      let now := keep (!first) second
      if now == current then merge keep (!first) second current left (b :: right)
      else a :: merge keep (!first) second now left (b :: right)
    else if b < a then
      let now := keep first (!second)
      if now == current then merge keep first (!second) current (a :: left) right
      else b :: merge keep first (!second) now (a :: left) right
    else
      let now := keep (!first) (!second)
      if now == current then merge keep (!first) (!second) current left right
      else a :: merge keep (!first) (!second) now left right
  termination_by first second => first.length + second.length

/-- The code points that `keep` takes by their membership in the two sets. -/
def combine (keep : Bool → Bool → Bool) (first second : CharSet) : CharSet :=
  ⟨merge keep false false false first.boundaries second.boundaries⟩

/-- The code points of either set. -/
def union : CharSet → CharSet → CharSet := combine (· || ·)

/-- The code points of both sets. -/
def inter : CharSet → CharSet → CharSet := combine (· && ·)

/-- The code points of the first set alone. -/
def difference : CharSet → CharSet → CharSet := combine fun a b => a && !b

/-- The code points of exactly one of the two sets. -/
def symmDiff : CharSet → CharSet → CharSet := combine xor

/-- The code points outside a set. -/
def complement (set : CharSet) : CharSet := all.difference set

/-- The boundaries of the set of the code points in an increasing list, which may repeat itself. -/
def boundariesOfSorted : List Nat → List Nat
  | [] => []
  | code :: rest =>
    match boundariesOfSorted rest with
    | next :: more =>
      if next = code then next :: more
      else if next = code + 1 then code :: more
      else code :: (code + 1) :: next :: more
    | [] => [code, code + 1]

/-- The set of the code points in a list. -/
def ofCodes (codes : List Nat) : CharSet := ⟨boundariesOfSorted (codes.mergeSort (· ≤ ·))⟩

/-- Pairs of boundaries as closed intervals; a set left open ends at the last code point. -/
def pairUp : List Nat → List (Nat × Nat)
  | [] => []
  | [first] => [(first, limit - 1)]
  | first :: next :: rest => (first, next - 1) :: pairUp rest

/-- The set as closed intervals, in increasing order. -/
def intervals (set : CharSet) : List (Nat × Nat) := pairUp set.boundaries

end CharSet

end ServiceLocation.Text
