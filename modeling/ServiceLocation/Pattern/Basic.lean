import ServiceLocation.Pattern.Reader
import ServiceLocation.Pattern.Search
import ServiceLocation.Pattern.Size
import ServiceLocation.Pattern.Template

/-!
**Patterns.**

* `Pattern.ofText?`: the pattern that a text writes, if it is well formed and not too large;
* `Match`: where a pattern matches in a text, and what its groups match;
* `Pattern.find?`: the first match in a text, the preferred one among those that start there.
-/

namespace ServiceLocation

open ServiceLocation.Text

/-- A pattern that texts are searched for. -/
structure Pattern where
  expr : Pattern.Expr
  program : Pattern.Program

namespace Pattern

/-- A pattern matched in a text. -/
structure Match where
  /-- The whole text. -/
  text : List Char
  /-- The places that are remembered, the latest first. -/
  slots : Slots

namespace Match

/-- The place remembered in a slot. -/
def place? (found : Match) (slot : Nat) : Option Nat := found.slots.lookup slot

/-- Where the match starts. -/
def start (found : Match) : Nat := (found.place? 0).getD 0

/-- Where the match ends. -/
def stop (found : Match) : Nat := (found.place? 1).getD 0

/-- The text before the match. -/
def before (found : Match) : List Char := found.text.take found.start

/-- The text after the match. -/
def after (found : Match) : List Char := found.text.drop found.stop

/-- What a group matches, if it takes part in the match. -/
def group? (found : Match) (index : Nat) : Option (List Char) := do
  let start ← found.place? (2 * index)
  let stop ← found.place? (2 * index + 1)
  some ((found.text.take stop).drop start)

/-- What a reference stands for: what the group matches, and nothing if it takes no part in the match.
The names of groups are not kept, so a name stands for nothing. -/
def referent (found : Match) : Reference → List Char
  | .number index => (found.group? index).getD []
  | .name _ => []

end Match

/-- The pattern that a text writes; `ignoreCase` lets letters match in either case. -/
def ofText? (ignoreCase : Bool) (text : List Char) : Option Pattern := do
  let expr ← readPattern ignoreCase text
  if fits expr then some { expr, program := .ofExpr expr } else none

/-- The first match in a text. -/
def find? (pattern : Pattern) (text : List Char) : Option Match :=
  (search pattern.program text).map fun slots => { text, slots }

end Pattern

end ServiceLocation
