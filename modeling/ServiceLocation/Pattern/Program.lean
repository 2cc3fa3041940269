import ServiceLocation.Pattern.Expression

/-!
**Programs of expressions.**

A program is an array of steps that refer to one another by their positions. It is laid out from the
end of an expression to its start, so that every step but those that close a loop refers to steps
laid out before.

* `Step`, `Program`: steps and programs;
* `Program.ofExpr`: the program of an expression. The whole match is remembered as group `0`.
-/

namespace ServiceLocation.Pattern

open ServiceLocation.Text

/-- A step of a program. -/
inductive Step where
  /-- Reads one character of a set. -/
  | read (set : CharSet) (next : Nat)
  /-- Goes on in two ways, the first being preferred. -/
  | fork (first second : Nat)
  /-- Remembers the current place in a slot. -/
  | save (slot next : Nat)
  /-- Goes on where a condition holds. -/
  | check (look : Look) (next : Nat)
  /-- Ends a match. -/
  | accept
  deriving Inhabited

/-- A program. -/
structure Program where
  steps : Array Step
  /-- Where a match starts. -/
  start : Nat

/-- The steps laid out so far, and the one that comes first when they are run. -/
structure Layout where
  steps : Array Step
  entry : Nat

namespace Layout

/-- One more step, which comes first. -/
def push (layout : Layout) (step : Step) : Layout :=
  { steps := layout.steps.push step, entry := layout.steps.size }

/-- The steps with another first one. -/
def enterAt (layout : Layout) (entry : Nat) : Layout := { layout with entry }

/-- A choice between two ways, the first being taken rather if `greedy`. -/
def forkOf (greedy : Bool) (inside outside : Nat) : Step :=
  if greedy then .fork inside outside else .fork outside inside

/-- A part several times in front. -/
def copies (part : Layout → Layout) : Nat → Layout → Layout
  | 0, layout => layout
  | count + 1, layout => copies part count (part layout)

/-- A part up to several times in front, each but the first only after the one before it. -/
def optional (part : Layout → Layout) (greedy : Bool) (exit : Nat) : Nat → Layout → Layout
  | 0, layout => layout
  | count + 1, layout =>
    let inside := part layout
    optional part greedy exit count (inside.push (forkOf greedy inside.entry exit))

/-- A part once or more in front. -/
def loop (part : Layout → Layout) (greedy : Bool) (layout : Layout) : Layout :=
  let exit := layout.entry
  let head := layout.steps.size
  let inside := part (layout.push .accept)
  { inside with steps := inside.steps.setIfInBounds head (forkOf greedy inside.entry exit) }

/-- A part any number of times in front. -/
def star (part : Layout → Layout) (greedy : Bool) (layout : Layout) : Layout :=
  let inside := loop part greedy layout
  inside.push (forkOf greedy inside.entry layout.entry)

/-- An expression in front. -/
def prepend : Expr → Layout → Layout
  | .empty, layout => layout
  | .chars set, layout => layout.push (.read set layout.entry)
  | .look look, layout => layout.push (.check look layout.entry)
  | .group index body, layout =>
    let inside := prepend body (layout.push (.save (2 * index + 1) layout.entry))
    inside.push (.save (2 * index) inside.entry)
  | .seq first second, layout => prepend first (prepend second layout)
  | .alt first second, layout =>
    let exit := layout.entry
    let other := prepend second layout
    let one := prepend first (other.enterAt exit)
    one.push (.fork one.entry other.entry)
  | .times body least most greedy, layout =>
    let part := prepend body
    match most with
    | some most =>
      copies part least (optional part greedy layout.entry (most - least) layout)
    | none =>
      if least = 0 then star part greedy layout
      else copies part (least - 1) (loop part greedy layout)

end Layout

/-- The program of an expression. -/
def Program.ofExpr (expr : Expr) : Program :=
  let layout := Layout.prepend (.group 0 expr) { steps := #[.accept], entry := 0 }
  { steps := layout.steps, start := layout.entry }

end ServiceLocation.Pattern
