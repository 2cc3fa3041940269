import ServiceLocation.Text.CharSet

/-!
**Written tables of code points.**

A set over many ranges is written as the lengths of its runs, outside and inside in turn,
in base 36 and set apart by blanks: `1c a 7 q` holds `0` to `9` and `A` to `Z`.

* `numbers`: the numbers of such a text;
* `CharSet.ofRuns`: the set it writes;
* `Partition`: a table that gives every code point a value, searched by halving.
-/

namespace ServiceLocation.Text

/-- The value of a digit in base 36. -/
def digit36 (c : Char) : Nat :=
  if '0' ≤ c ∧ c ≤ '9' then c.toNat - '0'.toNat else c.toNat - 'a'.toNat + 10

/-- The value of a numeral in base 36. -/
def number36 (digits : List Char) : Nat :=
  digits.foldl (fun value c => value * 36 + digit36 c) 0

/-- The numbers of a text, in base 36 and set apart by blanks. -/
def numbers (text : String) : List Nat := (text.toList.splitOn ' ').map number36

/-- The points reached by walking the given distances one after the other. -/
def runningSums (start : Nat) : List Nat → List Nat
  | [] => []
  | step :: rest => (start + step) :: runningSums (start + step) rest

/-- The set whose runs, outside and inside in turn, have the written lengths. -/
def CharSet.ofRuns (text : String) : CharSet := ⟨runningSums 0 (numbers text)⟩

/-- The position of the last start that is at most `code`, between `low` and `high`. -/
def lastStart (starts : Array Nat) (code low high : Nat) : Nat :=
  if low + 1 < high then
    let middle := (low + high) / 2
    if starts.getD middle 0 ≤ code then lastStart starts code middle high
    else lastStart starts code low middle
  else low
  termination_by high - low

/-- A value for every code point, constant from each start to the next. -/
structure Partition (α : Type) where
  /-- Where the runs start, in increasing order from `0`. -/
  starts : Array Nat
  /-- The value of each run. -/
  values : Array α

namespace Partition

variable {α : Type}

/-- The value of a code point; `fallback` if the table is empty. -/
def valueAt (table : Partition α) (fallback : α) (code : Nat) : α :=
  table.values.getD (lastStart table.starts code 0 table.starts.size) fallback

/-- A run of a table written as its value, a full stop and its length in base 36. -/
def readRun (read : List Char → α) (text : List Char) : α × Nat :=
  match text.splitOn '.' with
  | value :: length :: _ => (read value, number36 length)
  | _ => (read text, 0)

/-- The table whose runs are written one after the other, set apart by blanks. -/
def ofText (read : List Char → α) (text : String) : Partition α :=
  let runs := (text.toList.splitOn ' ').map (readRun read)
  { starts := (0 :: runningSums 0 (runs.map (·.2))).dropLast.toArray
    values := (runs.map (·.1)).toArray }

/-- The boundaries of the runs that `keep` takes, walking from `start` on the side `inside`. -/
def boundariesOf (keep : α → Bool) (inside : Bool) (last : Nat) : List (Nat × α) → List Nat
  | [] => if inside then [last] else []
  | (start, value) :: rest =>
    if keep value == inside then boundariesOf keep inside last rest
    else start :: boundariesOf keep (!inside) last rest

/-- The code points whose value `keep` takes. -/
def setOf (table : Partition α) (keep : α → Bool) : CharSet :=
  ⟨boundariesOf keep false CharSet.limit (table.starts.toList.zip table.values.toList)⟩

end Partition

end ServiceLocation.Text
