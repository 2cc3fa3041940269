/-!
**Spans of time.**

A span is a whole number of nanoseconds below `2 ^ 64` seconds. It is kept in two words: its whole
seconds, and its nanoseconds beyond them.

* `ofNanos` and `times` stop at the longest span instead of going past it. What is taken several times
  is each word alone, and the seconds that the nanoseconds come to are carried;
* `text`: a span in the largest of the units `s`, `ms`, `µs` and `ns` that it fills, with the
  fraction it needs and no more.
-/

namespace ServiceLocation

/-- The nanoseconds of a second. -/
def nanosPerSecond : Nat := 1000000000

/-- The nanoseconds of the longest span. -/
def longestNanos : Nat := UInt64.size * nanosPerSecond - 1

/-- A span of time. -/
structure Span where
  /-- Its whole seconds. -/
  whole : UInt64
  /-- Its nanoseconds beyond them. -/
  beyond : UInt32
  beyond_lt : beyond.toNat < nanosPerSecond
  deriving DecidableEq

namespace Span

/-- The number of whole seconds of a span. -/
def seconds (span : Span) : Nat := span.whole.toNat

/-- The number of nanoseconds of a span beyond its whole seconds. -/
def subsecond (span : Span) : Nat := span.beyond.toNat

/-- The number of nanoseconds of a span. -/
def nanos (span : Span) : Nat := span.seconds * nanosPerSecond + span.subsecond

/-- What is left of a number of nanoseconds beyond whole seconds fits its word. -/
theorem toNat_ofNat_mod (nanos : Nat) :
    (UInt32.ofNat (nanos % nanosPerSecond)).toNat = nanos % nanosPerSecond :=
  UInt32.toNat_ofNat_of_lt' (Nat.lt_trans (Nat.mod_lt nanos (by decide)) (by decide))

/-- The span with the given whole seconds and the nanoseconds that are left of `nanos` beyond whole
seconds. -/
def withRest (whole : UInt64) (nanos : Nat) : Span :=
  { whole, beyond := .ofNat (nanos % nanosPerSecond)
    beyond_lt := by rw [toNat_ofNat_mod]; exact Nat.mod_lt nanos (by decide) }

/-- The longest span. -/
def longest : Span := withRest (.ofNat (UInt64.size - 1)) (nanosPerSecond - 1)

/-- The span of that many nanoseconds, or the longest one. -/
def ofNanos (nanos : Nat) : Span :=
  let kept := min nanos longestNanos
  withRest (.ofNat (kept / nanosPerSecond)) kept

/-- The span of whole seconds and nanoseconds. -/
def ofParts (seconds nanos : Nat) : Span := ofNanos (seconds * nanosPerSecond + nanos)

/-- The span of that many milliseconds. -/
def ofMillis (millis : Nat) : Span := ofNanos (millis * 1000000)

/-- A number of seconds, if it fits its word. -/
def seconds? (seconds : Nat) : Option UInt64 :=
  if seconds < UInt64.size then some (.ofNat seconds) else none

/-- A span taken `count` times, if its seconds fit their word: those of the seconds alone, and then
those with what the nanoseconds come to. -/
def times? (span : Span) (count : UInt32) : Option Span := do
  let nanos := span.beyond.toUInt64 * count.toUInt64
  let product ← seconds? (span.seconds * count.toNat)
  let whole ← seconds? (product.toNat + nanos.toNat / nanosPerSecond)
  some (withRest whole nanos.toNat)

/-- A span taken `count` times, or the longest one. -/
def times (span : Span) (count : UInt32) : Span := (span.times? count).getD longest

instance : LE Span := ⟨fun first second => first.nanos ≤ second.nanos⟩

instance (first second : Span) : Decidable (first ≤ second) :=
  inferInstanceAs (Decidable (first.nanos ≤ second.nanos))

instance : Inhabited Span := ⟨ofNanos 0⟩

/-- A number below `10 ^ width` as a decimal fraction without the zeros at its end. -/
def fractionDigits (width number : Nat) : List Char :=
  let digits := (toString number).toList
  let padded := List.replicate (width - digits.length) '0' ++ digits
  (padded.reverse.dropWhile (· == '0')).reverse

/-- A number of nanoseconds in a unit of `10 ^ width` nanoseconds. -/
def textIn (nanos width : Nat) (unit : String) : String :=
  let whole := toString (nanos / Nat.pow 10 width)
  match fractionDigits width (nanos % Nat.pow 10 width) with
  | [] => whole ++ unit
  | digits => whole ++ "." ++ String.ofList digits ++ unit

/-- A span in the largest unit that it fills. -/
def text (span : Span) : String :=
  if nanosPerSecond ≤ span.nanos then textIn span.nanos 9 "s"
  else if 1000000 ≤ span.nanos then textIn span.nanos 6 "ms"
  else if 1000 ≤ span.nanos then textIn span.nanos 3 "µs"
  else textIn span.nanos 0 "ns"

/-- Every span is at least the empty one. -/
theorem ofNanos_zero_le (span : Span) : ofNanos 0 ≤ span := Nat.zero_le _

end Span

end ServiceLocation
