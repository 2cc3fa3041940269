import ServiceLocation.Proofs.Naptr.Retry
import ServiceLocation.Proofs.Span

/-!
**The budget of an attempt reaches every server.**

Servers are asked in turn. One that does not answer in the time it is given costs all of that time, and
then the next one is asked.

* `RetryPolicy.nanos_attemptBudget`: the budget is the time of all servers, up to the longest span;
* `RetryPolicy.attemptBudget_mono`: more servers, or more time for each, never make it less;
* `answeredAfter?_lt`: an answer comes before the time of all servers is over;
* `attemptBudget_exact`: **so the budget never cuts a server off that answers in its own time.**
-/

namespace ServiceLocation

namespace RetryPolicy

variable {policy first second : RetryPolicy} {count few many : Nat}

theorem toNat_rounds (count : Nat) : (rounds count).toNat = min (max count 1) (UInt32.size - 1) :=
  UInt32.toNat_ofNat_of_lt' (Nat.lt_of_le_of_lt (Nat.min_le_right _ _) (by decide))

/-- A number of servers that fits a word is counted exactly. -/
theorem toNat_rounds_of_lt (counted : count < UInt32.size) : (rounds count).toNat = max count 1 := by
  rw [toNat_rounds, Nat.min_eq_left]
  exact Nat.max_le.2 ⟨Nat.le_sub_one_of_lt counted, by decide⟩

theorem rounds_mono (le : few ≤ many) : (rounds few).toNat ≤ (rounds many).toNat := by
  rw [toNat_rounds, toNat_rounds]
  omega

/-- **The budget is the time of all servers**, up to the longest span. -/
theorem nanos_attemptBudget (policy : RetryPolicy) (counted : count < UInt32.size) :
    (policy.attemptBudget count).nanos =
      min (max count 1 * policy.queryTimeout.nanos) longestNanos := by
  rw [attemptBudget, Span.nanos_times, toNat_rounds_of_lt counted, Nat.mul_comm]

/-- **More servers, or more time for each, never make the budget less.** -/
theorem attemptBudget_mono (longer : first.queryTimeout ≤ second.queryTimeout) (more : few ≤ many) :
    first.attemptBudget few ≤ second.attemptBudget many := by
  show (first.attemptBudget few).nanos ≤ (second.attemptBudget many).nanos
  rw [attemptBudget, attemptBudget, Span.nanos_times, Span.nanos_times]
  have product := Nat.mul_le_mul longer (rounds_mono more)
  omega

theorem maxAttempts_le (policy : RetryPolicy) : policy.maxAttempts ≤ policy.maxTryAgain.toNat + 1 :=
  Nat.min_le_left _ _

/-- Only a policy that repeats a query as often as a word can count makes one attempt less. -/
theorem maxAttempts_eq_iff :
    policy.maxAttempts = policy.maxTryAgain.toNat + 1 ↔
      policy.maxTryAgain.toNat ≠ UInt32.size - 1 := by
  have below : policy.maxTryAgain.toNat < UInt32.size := policy.maxTryAgain.toNat_lt
  unfold maxAttempts
  omega

end RetryPolicy

namespace Naptr

/-! ### Servers in turn -/

/-- The nanoseconds after which servers answer that are asked in turn. Each is given `timeout`, and
answers after a delay or never. -/
def answeredAfter? (timeout : Nat) : List (Option Nat) → Option Nat
  | [] => none
  | server :: rest =>
    match server.filter (· < timeout) with
    | some delay => some delay
    | none => (answeredAfter? timeout rest).map (timeout + ·)

/-- The server after silent ones answers after its own delay and the time that they were given. -/
theorem answeredAfter?_silent {timeout delay : Nat} (inTime : delay < timeout) (silent : Nat)
    (rest : List (Option Nat)) :
    answeredAfter? timeout (List.replicate silent none ++ some delay :: rest) =
      some (silent * timeout + delay) := by
  induction silent with
  | zero =>
    have own : (some delay).filter (· < timeout) = some delay :=
      Option.filter_eq_some_iff.2 ⟨rfl, decide_eq_true inTime⟩
    rw [List.replicate_zero, List.nil_append, answeredAfter?, own, Nat.zero_mul, Nat.zero_add]
  | succ silent ih =>
    rw [List.replicate_succ, List.cons_append, answeredAfter?, Option.filter_none]
    simp only [ih, Option.map_some]
    rw [Nat.succ_mul, ← Nat.add_assoc, Nat.add_comm timeout]

/-- **An answer comes before the time of all servers is over.** -/
theorem answeredAfter?_lt {timeout time : Nat} {servers : List (Option Nat)}
    (answered : answeredAfter? timeout servers = some time) : time < servers.length * timeout := by
  induction servers generalizing time with
  | nil => cases answered
  | cons server rest ih =>
    rw [List.length_cons, Nat.succ_mul]
    unfold answeredAfter? at answered
    split at answered
    · rename_i delay own
      have inTime : delay < timeout := of_decide_eq_true (Option.filter_eq_some_iff.1 own).2
      obtain rfl := Option.some.inj answered
      exact Nat.lt_of_lt_of_le inTime (Nat.le_add_left _ _)
    · obtain ⟨later, found, rfl⟩ := Option.map_eq_some_iff.1 answered
      rw [Nat.add_comm]
      exact Nat.add_lt_add_right (ih found) timeout

/-- What comes before the time of all servers is over comes within the budget, unless that is the longest
span. -/
theorem lt_attemptBudget (policy : RetryPolicy) {count time : Nat} (counted : count < UInt32.size)
    (before : time < count * policy.queryTimeout.nanos) :
    time < (policy.attemptBudget count).nanos ∨ policy.attemptBudget count = .longest := by
  have all : count * policy.queryTimeout.nanos ≤ max count 1 * policy.queryTimeout.nanos :=
    Nat.mul_le_mul_right _ (Nat.le_max_left _ _)
  rcases Nat.le_total (max count 1 * policy.queryTimeout.nanos) longestNanos with fits | misfits
  · left
    rw [policy.nanos_attemptBudget counted, Nat.min_eq_left fits]
    exact Nat.lt_of_lt_of_le before all
  · right
    apply Span.eq_of_nanos
    rw [policy.nanos_attemptBudget counted, Nat.min_eq_right misfits, Span.nanos_longest]

/-! ### Budgets -/

/-- **The budget is exactly the time of all servers**, no server counting as one, up to the longest span,
and grows with both. **So it never cuts a server off that answers in its own time**, however many before it
are silent. The number of attempts is exact as well, unless a query is repeated as often as a word can
count. -/
theorem attemptBudget_exact (policy : RetryPolicy) (count : Nat) (counted : count < UInt32.size) :
    let budget := policy.attemptBudget count
    let total := min (max count 1 * policy.queryTimeout.nanos) Span.longest.nanos
    (budget.nanos = total ∧ budget.seconds = total / 1000000000 ∧
      budget.subsecond = total % 1000000000 ∧ budget.subsecond < 1000000000) ∧
    (∀ (longer : RetryPolicy) (more : Nat), policy.queryTimeout ≤ longer.queryTimeout →
      count ≤ more → budget ≤ longer.attemptBudget more) ∧
    (∀ silent < count, ∀ delay < policy.queryTimeout.nanos,
      silent * policy.queryTimeout.nanos + delay < budget.nanos ∨ budget = .longest) ∧
    (∀ (servers : List (Option Nat)) (delay : Span) (outcome : Outcome), servers.length = count →
      answeredAfter? policy.queryTimeout.nanos servers = some delay.nanos →
      attempt budget { outcome := some outcome, delay } = outcome) ∧
    1 ≤ policy.maxAttempts ∧ policy.maxAttempts ≤ policy.maxTryAgain.toNat + 1 ∧
    (policy.maxAttempts = policy.maxTryAgain.toNat + 1 ↔
      policy.maxTryAgain.toNat ≠ UInt32.size - 1) := by
  have budget := policy.nanos_attemptBudget counted
  rw [← Span.nanos_longest] at budget
  have inBudget : ∀ {time : Nat}, time < count * policy.queryTimeout.nanos →
      time < (policy.attemptBudget count).nanos ∨ policy.attemptBudget count = .longest :=
    lt_attemptBudget policy counted
  refine ⟨⟨budget, ?_, ?_, Span.subsecond_lt _⟩,
    fun longer more => RetryPolicy.attemptBudget_mono, ?_, ?_, policy.maxAttempts_pos,
    policy.maxAttempts_le, RetryPolicy.maxAttempts_eq_iff⟩
  · rw [← budget]
    exact Span.seconds_eq _
  · rw [← budget]
    exact Span.subsecond_eq _
  · intro silent before delay inTime
    apply inBudget
    have soon := answeredAfter?_lt (answeredAfter?_silent inTime silent [])
    rw [List.length_append, List.length_replicate, List.length_singleton] at soon
    exact Nat.lt_of_lt_of_le soon (Nat.mul_le_mul_right _ before)
  · intro servers delay outcome length answered
    apply attempt_of_inTime rfl
    rcases inBudget (length ▸ answeredAfter?_lt answered) with before | longest
    · exact Nat.le_of_lt before
    · rw [longest]
      exact delay.le_longest

/-- Two servers, of which each is given just under half of the longest span. The budget is
one nanosecond short of the longest span, and the second server is waited for to the last. -/
theorem attemptBudget_exact_of_halves :
    let half : Span := .ofParts 9223372036854775807 999999999
    let policy : RetryPolicy := { queryTimeout := half, maxTryAgain := 0 }
    let last : Nat := 2 * half.nanos - 1
    2 < UInt32.size ∧
      (policy.attemptBudget 2).seconds = UInt64.size - 1 ∧
      (policy.attemptBudget 2).subsecond = 999999998 ∧
      policy.attemptBudget 2 ≤ policy.attemptBudget 3 ∧
      (1 * half.nanos + (half.nanos - 1) < (policy.attemptBudget 2).nanos ∨
        policy.attemptBudget 2 = .longest) ∧
      answeredAfter? half.nanos [none, some (half.nanos - 1)] = some (Span.ofNanos last).nanos ∧
      attempt (policy.attemptBudget 2) { outcome := some (.ok []), delay := .ofNanos last } =
        .ok [] := by
  intro half policy last
  obtain ⟨⟨_, seconds, subsecond, _⟩, grows, reaches, answers, _⟩ :=
    attemptBudget_exact policy 2 (by decide)
  have answered : answeredAfter? half.nanos [none, some (half.nanos - 1)] =
      some (Span.ofNanos last).nanos := by decide
  exact ⟨by decide, seconds.trans (by decide), subsecond.trans (by decide),
    grows policy 3 (Nat.le_refl _) (by decide), reaches 1 (by decide) (half.nanos - 1) (by decide),
    answered, answers [none, some (half.nanos - 1)] (.ofNanos last) (.ok []) rfl answered⟩

end Naptr

end ServiceLocation
