import ServiceLocation.Text.CharSet
import ServiceLocation.Unicode.Property

/-!
**Regular expressions.**

* `Edge`, `Look`: conditions on the place between two characters (`Look.holds`);
* `Expr`: regular expressions over sets of characters, with places and groups;
* `Expr.onlyEmpty`: whether an expression can read no character;
* `Expr.alwaysReads`: whether it reads at least one whenever it matches.
-/

namespace ServiceLocation.Pattern

open ServiceLocation.Text ServiceLocation.Unicode

/-- How a place lies with respect to words. -/
inductive Edge where
  /-- A word starts or ends here. -/
  | boundary
  /-- No word starts or ends here. -/
  | noBoundary
  /-- A word starts here. -/
  | start
  /-- A word ends here. -/
  | stop
  /-- No word goes on from before. -/
  | startHalf
  /-- No word follows. -/
  | stopHalf
  deriving Repr, DecidableEq

/-- Whether a place lies as told, between word characters as the two tests say. -/
def Edge.holds (edge : Edge) (before after : Bool) : Bool :=
  match edge with
  | boundary => before != after
  | noBoundary => before == after
  | start => !before && after
  | stop => before && !after
  | startHalf => !before
  | stopHalf => !after

/-- A condition on a place. -/
inductive Look where
  | textStart
  | textEnd
  /-- A line starts here; `crlf` says whether a carriage return ends lines too. -/
  | lineStart (crlf : Bool)
  /-- A line ends here. -/
  | lineEnd (crlf : Bool)
  /-- The place lies as told, for words of all scripts or of ASCII alone. -/
  | word (edge : Edge) (ascii : Bool)
  deriving Repr, DecidableEq

/-- The word characters of ASCII. -/
def asciiWordCharacter : CharSet := ⟨[0x30, 0x3A, 0x41, 0x5B, 0x5F, 0x60, 0x61, 0x7B]⟩

/-- Whether a neighbour of a place is a word character. -/
def isWord (ascii : Bool) (neighbour : Option Char) : Bool :=
  neighbour.any (if ascii then asciiWordCharacter else wordCharacter).contains

/-- Whether a condition holds at the place between two neighbours. -/
def Look.holds (look : Look) (before after : Option Char) : Bool :=
  match look with
  | textStart => before.isNone
  | textEnd => after.isNone
  | lineStart false => before.isNone || before == some '\n'
  | lineEnd false => after.isNone || after == some '\n'
  | lineStart true =>
    before.isNone || before == some '\n' || (before == some '\r' && after != some '\n')
  | lineEnd true =>
    after.isNone || after == some '\r' || (after == some '\n' && before != some '\r')
  | word edge ascii => edge.holds (isWord ascii before) (isWord ascii after)

/-- A regular expression. -/
inductive Expr where
  /-- Matches the empty text. -/
  | empty
  /-- Matches one character of a set. -/
  | chars (set : CharSet)
  /-- Matches the empty text where a condition holds. -/
  | look (look : Look)
  /-- Matches what its body matches, and remembers it. -/
  | group (index : Nat) (body : Expr)
  | seq (first second : Expr)
  /-- Matches what either expression matches, the first being preferred. -/
  | alt (first second : Expr)
  /-- Matches its body several times, as often as possible if `greedy`, else as rarely. -/
  | times (body : Expr) (least : Nat) (most : Option Nat) (greedy : Bool)
  deriving Repr, DecidableEq, Inhabited

namespace Expr

/-- Whether an expression reads no character, whenever it matches. -/
def onlyEmpty : Expr → Bool
  | empty => true
  | chars _ => false
  | look _ => true
  | group _ body => body.onlyEmpty
  | seq first second => first.onlyEmpty && second.onlyEmpty
  | alt first second => first.onlyEmpty && second.onlyEmpty
  | times body _ _ _ => body.onlyEmpty

/-- Whether an expression reads a character, whenever it matches. -/
def alwaysReads : Expr → Bool
  | empty => false
  | chars _ => true
  | look _ => false
  | group _ body => body.alwaysReads
  | seq first second => first.alwaysReads || second.alwaysReads
  | alt first second => first.alwaysReads && second.alwaysReads
  | times body least _ _ => 0 < least && body.alwaysReads

/--
An expression several times. What reads no character is not tried more than once, and nothing is
left of a repetition that allows none.
-/
def repeated (body : Expr) (least : Nat) (most : Option Nat) (greedy : Bool) : Expr :=
  let least := if body.onlyEmpty then min least 1 else least
  let most := if body.onlyEmpty then some (min (most.getD 1) 1) else most
  if least = 0 ∧ most = some 0 then empty
  else if least = 1 ∧ most = some 1 then body
  else times body least most greedy

/-- Expressions one after the other. -/
def sequence : List Expr → Expr
  | [] => empty
  | [only] => only
  | first :: rest => seq first (sequence rest)

/-- The set of an expression that is one. -/
def set? : Expr → Option CharSet
  | chars set => some set
  | _ => none

/-- The choice between expressions, an earlier one being preferred. -/
def alternatives : List Expr → Expr
  | [] => empty
  | [only] => only
  | first :: rest => alt first (alternatives rest)

/-- The choice between expressions; between sets it is their union. -/
def choice (exprs : List Expr) : Expr :=
  match exprs.mapM set? with
  | some (first :: rest) => chars (rest.foldl CharSet.union first)
  | _ => alternatives exprs

end Expr

end ServiceLocation.Pattern
