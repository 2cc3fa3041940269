import Mathlib.Tactic.Common
import ServiceLocation.Span

/-!
**Spans are numbers of nanoseconds.**

What a span does is told through `Span.nanos`, its nanoseconds as one number.

* `Span.nanos_le`, `Span.eq_of_nanos`: every number up to the longest is that of one span at most;
* `Span.nanos_ofNanos`: and of one at least;
* `Span.nanos_times`: **a multiple is exact up to the longest span**, with the carry from the
  nanoseconds to the seconds, and is the longest span beyond it.
-/

namespace ServiceLocation.Span

variable {first second : Span} {count : UInt32}

theorem seconds_lt (span : Span) : span.seconds < UInt64.size := span.whole.toNat_lt

theorem subsecond_lt (span : Span) : span.subsecond < nanosPerSecond := span.beyond_lt

theorem nanos_le (span : Span) : span.nanos ≤ longestNanos := by
  have seconds := span.seconds_lt
  have subsecond := span.subsecond_lt
  simp only [nanos, longestNanos, nanosPerSecond, UInt64.size] at *
  omega

/-! ### The two words and the number -/

theorem seconds_eq (span : Span) : span.seconds = span.nanos / nanosPerSecond := by
  rw [nanos, Nat.mul_comm, Nat.mul_add_div (by decide), Nat.div_eq_of_lt span.subsecond_lt,
    Nat.add_zero]

theorem subsecond_eq (span : Span) : span.subsecond = span.nanos % nanosPerSecond := by
  rw [nanos, Nat.mul_comm, Nat.mul_add_mod, Nat.mod_eq_of_lt span.subsecond_lt]

/-- **A span is told by its nanoseconds.** -/
theorem eq_of_nanos (same : first.nanos = second.nanos) : first = second := by
  have seconds : first.seconds = second.seconds := by rw [seconds_eq, seconds_eq, same]
  have subsecond : first.subsecond = second.subsecond := by rw [subsecond_eq, subsecond_eq, same]
  cases first
  cases second
  rw [mk.injEq]
  exact ⟨UInt64.toNat_inj.1 seconds, UInt32.toNat_inj.1 subsecond⟩

theorem nanos_withRest (whole : UInt64) (rest : Nat) :
    (withRest whole rest).nanos = whole.toNat * nanosPerSecond + rest % nanosPerSecond := by
  rw [nanos, seconds, subsecond, withRest, toNat_ofNat_mod]

@[simp] theorem nanos_longest : longest.nanos = longestNanos := by decide

@[simp] theorem nanos_ofNanos (number : Nat) : (ofNanos number).nanos = min number longestNanos := by
  have fits : min number longestNanos / nanosPerSecond < UInt64.size :=
    Nat.div_lt_of_lt_mul (Nat.lt_of_le_of_lt (Nat.min_le_right _ _) (by decide))
  rw [ofNanos, nanos_withRest, UInt64.toNat_ofNat_of_lt' fits, Nat.div_add_mod']

theorem le_longest (span : Span) : span ≤ longest := by
  show span.nanos ≤ longest.nanos
  rw [nanos_longest]
  exact span.nanos_le

/-! ### Multiples -/

theorem toNat_of_seconds? {number : Nat} {whole : UInt64} (fits : seconds? number = some whole) :
    whole.toNat = number := by
  obtain ⟨below, same⟩ := Option.ite_none_right_eq_some.1 fits
  rw [← Option.some.inj same, UInt64.toNat_ofNat_of_lt' below]

theorem seconds?_eq_none_iff {number : Nat} : seconds? number = none ↔ UInt64.size ≤ number := by
  rw [seconds?, ite_eq_right_iff, ← Nat.not_lt]
  exact forall_congr' fun _ => iff_of_false nofun id

/-- The nanoseconds of a multiple, those of a second and less each time, fit a word. -/
theorem toNat_beyond_mul (span : Span) (count : UInt32) :
    (span.beyond.toUInt64 * count.toUInt64).toNat = span.subsecond * count.toNat := by
  have fits : span.subsecond * count.toNat < 2 ^ 64 :=
    calc span.subsecond * count.toNat ≤ nanosPerSecond * UInt32.size :=
          Nat.mul_le_mul (Nat.le_of_lt span.subsecond_lt) (Nat.le_of_lt count.toNat_lt)
      _ < 2 ^ 64 := by decide
  rw [UInt64.toNat_mul, UInt32.toNat_toUInt64, UInt32.toNat_toUInt64]
  exact Nat.mod_eq_of_lt fits

/-- A multiple in its two parts, of which the nanoseconds carry into the seconds. -/
theorem nanos_mul (span : Span) (count : Nat) :
    span.nanos * count =
      (span.seconds * count + span.subsecond * count / nanosPerSecond) * nanosPerSecond +
        span.subsecond * count % nanosPerSecond := by
  rw [Nat.add_mul, Nat.add_assoc, Nat.div_add_mod', nanos, Nat.add_mul, Nat.mul_right_comm]

theorem nanos_of_times? {result : Span} (fits : first.times? count = some result) :
    result.nanos = first.nanos * count.toNat := by
  simp only [times?, Option.bind_eq_bind, Option.bind_eq_some_iff] at fits
  obtain ⟨product, productFits, whole, wholeFits, same⟩ := fits
  rw [toNat_beyond_mul] at wholeFits same
  rw [← Option.some.inj same, nanos_withRest, toNat_of_seconds? wholeFits,
    toNat_of_seconds? productFits, nanos_mul]

/-- A multiple that does not fit is longer than the longest span, be it because of the seconds alone or
because of the carry. -/
theorem longestNanos_lt_of_times? (misfit : first.times? count = none) :
    longestNanos < first.nanos * count.toNat := by
  have beyond : UInt64.size ≤
      first.seconds * count.toNat + first.subsecond * count.toNat / nanosPerSecond := by
    simp only [times?, Option.bind_eq_bind, Option.bind_eq_none_iff] at misfit
    cases product : seconds? (first.seconds * count.toNat) with
    | none => exact Nat.le_add_right_of_le (seconds?_eq_none_iff.1 product)
    | some seconds =>
      cases whole : seconds? (seconds.toNat +
          (first.beyond.toUInt64 * count.toUInt64).toNat / nanosPerSecond) with
      | none =>
        rw [toNat_beyond_mul, toNat_of_seconds? product] at whole
        exact seconds?_eq_none_iff.1 whole
      | some word => exact nomatch misfit seconds product word whole
  rw [nanos_mul]
  calc longestNanos < UInt64.size * nanosPerSecond := by decide
    _ ≤ (first.seconds * count.toNat + first.subsecond * count.toNat / nanosPerSecond) *
        nanosPerSecond := Nat.mul_le_mul_right _ beyond
    _ ≤ _ := Nat.le_add_right _ _

/-- **A multiple is exact up to the longest span**, and is that span beyond it. -/
@[simp] theorem nanos_times (span : Span) (count : UInt32) :
    (span.times count).nanos = min (span.nanos * count.toNat) longestNanos := by
  rw [times]
  cases product : span.times? count with
  | some result =>
    have product' := nanos_of_times? product
    rw [Option.getD_some, product', Nat.min_eq_left (product' ▸ result.nanos_le)]
  | none =>
    rw [Option.getD_none, nanos_longest,
      Nat.min_eq_right (Nat.le_of_lt (longestNanos_lt_of_times? product))]

end ServiceLocation.Span
