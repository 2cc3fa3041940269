import ServiceLocation.Pattern.Program

/-!
**Searching for a match.**

All ways through a program are followed at once, one character at a time, in the order in which they
are preferred. No step is taken up twice at one place, so the work grows with the length of the text
and the number of steps, and not with the number of ways.

* `Thread`: a way through a program, at a step, with the places it has remembered;
* `follow`: the ways that wait for a character, up to the first that ends a match;
* `scan`: the preferred one of the matches that start first.
-/

namespace ServiceLocation.Pattern

/-- The places that a way has remembered, the latest first, by slot. -/
abbrev Slots := List (Nat × Nat)

/-- A way through a program. -/
structure Thread where
  /-- The step it has come to. -/
  step : Nat
  slots : Slots
  deriving Inhabited

/-- A place in a text, between two neighbours. -/
structure Place where
  /-- The number of characters before it. -/
  position : Nat
  before : Option Char
  after : Option Char

/-- Marking a step leaves fewer without a mark. -/
theorem count_set_lt {marks : Array Bool} {step : Nat} (bound : step < marks.size)
    (unmarked : marks[step] = false) :
    (marks.set step true).count false < marks.count false := by
  have member : false ∈ marks := unmarked ▸ Array.getElem_mem bound
  have positive : 0 < marks.count false := Array.count_pos_iff.mpr member
  rw [Array.count_set]
  simp [unmarked]
  omega

/--
Follows the ways of `work` at a place until they wait for a character, the preferred ones first.
Answers those that do, the last first, and the slots of the first way that ends a match; what is
less preferred than that one is given up. `marks` says which steps are taken up already.
-/
def follow (program : Program) (place : Place) (marks : Array Bool) (waiting : List Thread)
    (work : List Thread) : List Thread × Option Slots :=
  match work with
  | [] => (waiting, none)
  | thread :: rest =>
    if bound : thread.step < marks.size then
      if marked : marks[thread.step] = true then follow program place marks waiting rest
      else
        have fewer := count_set_lt bound (by simpa using marked)
        let marks := marks.set thread.step true
        match program.steps[thread.step]? with
        | none => follow program place marks waiting rest
        | some .accept => (waiting, some thread.slots)
        | some (.read _ _) => follow program place marks (thread :: waiting) rest
        | some (.fork first second) =>
          follow program place marks waiting
            ({ thread with step := first } :: { thread with step := second } :: rest)
        | some (.save slot next) =>
          follow program place marks waiting
            (⟨next, (slot, place.position) :: thread.slots⟩ :: rest)
        | some (.check look next) =>
          if look.holds place.before place.after then
            follow program place marks waiting ({ thread with step := next } :: rest)
          else follow program place marks waiting rest
    else follow program place marks waiting rest
  termination_by 2 * marks.count false + work.length
  decreasing_by all_goals (simp only [List.length_cons]; omega)

/-- The way that goes on from a waiting one over a character, if it reads that character. -/
def advance (program : Program) (c : Char) (thread : Thread) : Option Thread :=
  match program.steps[thread.step]? with
  | some (.read set next) => if set.contains c then some { thread with step := next } else none
  | _ => none

/--
Goes through a text with the ways that have reached it. Where no match is found yet, one more may
start; a match that is found later is preferred to the one before.
-/
def scan (program : Program) (position : Nat) (before : Option Char) (threads : List Thread)
    (found : Option Slots) (text : List Char) : Option Slots :=
  let place : Place := { position, before, after := text.head? }
  let work := if found.isSome then threads else threads ++ [⟨program.start, []⟩]
  let marks := Array.replicate program.steps.size false
  let (waiting, accepted) := follow program place marks [] work
  let found := accepted.or found
  match text with
  | [] => found
  | c :: rest =>
    if found.isSome && waiting.isEmpty then found
    else scan program (position + 1) (some c) (waiting.reverse.filterMap (advance program c)) found
      rest

/-- The slots of the preferred one of the matches that start first in a text. -/
def search (program : Program) (text : List Char) : Option Slots := scan program 0 none [] none text

end ServiceLocation.Pattern
