import Mathlib.Data.Nat.Find
import Mathlib.Order.Bounds.Basic
import ServiceLocation.Proofs.Naptr.Choice

/-!
**The attempts of a query.**

A reply settles a query if it comes in time and is not a failure after which asking again may help.
A reply that comes too late, or never, counts as such a failure.

* `Reply.Brings`, `attempt_eq_iff`: what an attempt brings;
* `attempt_of_not_settles`: what does not settle a query is a failure to try again;
* `retry_of_first`, `retry_of_none`: a run of attempts ends with the first one that settles the
  query, or with the last one that is left; its outcome is the outcome of the attempt it ends with;
* `ask_fixed`: a network that answers at once and always the same leaves nothing to the policy;
* `ask_exact`: how often a call asks, what it asks, and what it answers, for every sequence of
  replies.

Both run lemmas are inductions on the attempts left. A run that is not settled by its first attempt
is the run of the others, whose replies are those after the first (`replyAt_succ`).
-/

namespace ServiceLocation.Naptr

/-- The reply comes in time, and is not a failure after which asking again may help. -/
def Reply.Settles (budget : Span) (reply : Reply) : Prop :=
  ∃ outcome, reply.outcome = some outcome ∧ reply.delay ≤ budget ∧
    ∀ reason, outcome ≠ .error (.tryAgain reason)

/-- What an attempt brings: the reply if it comes in time, and else the failure that tells that it did
not. -/
inductive Reply.Brings (budget : Span) (reply : Reply) : Outcome → Prop where
  | inTime {outcome : Outcome} (answered : reply.outcome = some outcome)
    (inTime : reply.delay ≤ budget) : Reply.Brings budget reply outcome
  | tooLate (late : ∀ outcome, reply.outcome = some outcome → ¬ reply.delay ≤ budget) :
    Reply.Brings budget reply (.error (.tryAgain ("no answer within " ++ budget.text)))

/-- The reply to the attempt after `index` others, in a call before which `asked` was asked. -/
def replyAt (network : Network) (query : Query) (asked : List Query) (index : Nat) : Reply :=
  network (asked ++ List.replicate index query) query

/-! ### One attempt -/

/-- A failure is transient exactly if it says to try again. -/
theorem Failure.isTransient_iff {failure : Failure} :
    failure.isTransient = true ↔ ∃ reason, failure = .tryAgain reason := by
  cases failure <;> simp [isTransient]

/-- An attempt that is answered in time has the outcome of its reply. -/
theorem attempt_of_inTime {budget : Span} {reply : Reply} {outcome : Outcome}
    (answered : reply.outcome = some outcome) (inTime : reply.delay ≤ budget) :
    attempt budget reply = outcome := by
  rw [attempt, answered]
  exact if_pos inTime

/-- **The outcome of an attempt is what it brings.** -/
theorem attempt_eq_iff {budget : Span} {reply : Reply} {outcome : Outcome} :
    attempt budget reply = outcome ↔ reply.Brings budget outcome := by
  constructor
  · rintro rfl
    unfold attempt
    split
    · rename_i answered
      split
      · exact .inTime answered ‹_›
      · rename_i late
        exact .tooLate fun _ _ => late
    · rename_i never
      exact .tooLate fun outcome answered => by cases never.symm.trans answered
  · rintro (⟨answered, inTime⟩ | late)
    · exact attempt_of_inTime answered inTime
    · cases answered : reply.outcome with
      | none => rw [attempt, answered]
      | some outcome =>
        rw [attempt, answered]
        exact if_neg (late outcome answered)

/-- **What does not settle a query is a failure to try again**, be it answered or a timeout. -/
theorem attempt_of_not_settles {budget : Span} {reply : Reply} (unsettled : ¬ reply.Settles budget) :
    ∃ reason, attempt budget reply = .error (.tryAgain reason) := by
  cases answered : reply.outcome with
  | none => exact ⟨_, by rw [attempt, answered]⟩
  | some outcome =>
    by_cases inTime : reply.delay ≤ budget
    · rw [attempt_of_inTime answered inTime]
      by_contra other
      exact unsettled ⟨outcome, answered, inTime, fun reason same => other ⟨reason, same⟩⟩
    · exact ⟨_, by rw [attempt, answered]; exact if_neg inTime⟩

/-- The outcome of an attempt that settles a query is no failure to try again. -/
theorem attempt_ne_tryAgain {budget : Span} {reply : Reply} (settled : reply.Settles budget)
    (reason : String) : attempt budget reply ≠ .error (.tryAgain reason) := by
  obtain ⟨outcome, answered, inTime, final⟩ := settled
  rw [attempt_of_inTime answered inTime]
  exact final reason

/-! ### A run of attempts -/

section Run

variable {network : Network} {budget : Span} {query : Query}

@[simp] theorem replyAt_zero (asked : List Query) :
    replyAt network query asked 0 = network asked query := by
  rw [replyAt, List.replicate_zero, List.append_nil]

/-- The replies after the first attempt. -/
theorem replyAt_succ (asked : List Query) (index : Nat) :
    replyAt network query asked (index + 1) = replyAt network query (asked ++ [query]) index := by
  rw [replyAt, replyAt, List.replicate_succ, List.append_assoc, List.singleton_append]

/-- A run ends with an attempt that settles the query. -/
theorem retry_succ_of_settles {asked : List Query} (settled : (network asked query).Settles budget)
    (left : Nat) (last : Failure) :
    retry network budget query (left + 1) last asked =
      (attempt budget (network asked query), asked ++ [query]) := by
  have final := attempt_ne_tryAgain settled
  rw [retry]
  cases outcome : attempt budget (network asked query) with
  | ok records => rfl
  | error failure =>
    have lasting : ¬ failure.isTransient = true := by
      rw [Failure.isTransient_iff]
      rintro ⟨reason, rfl⟩
      exact final reason outcome
    exact if_neg lasting

/-- A run goes on after an attempt that does not settle the query, and keeps its failure. -/
theorem retry_succ_of_not_settles {asked : List Query}
    (unsettled : ¬ (network asked query).Settles budget) (left : Nat) (last : Failure) :
    ∃ failure, attempt budget (network asked query) = .error failure ∧
      retry network budget query (left + 1) last asked =
        retry network budget query left failure (asked ++ [query]) := by
  obtain ⟨reason, outcome⟩ := attempt_of_not_settles unsettled
  refine ⟨.tryAgain reason, outcome, ?_⟩
  rw [retry, outcome]
  rfl

/-- **A run ends with the first attempt that settles the query.** -/
theorem retry_of_first {index left : Nat} (within : index < left) (last : Failure)
    (asked : List Query) (settled : (replyAt network query asked index).Settles budget)
    (before : ∀ i < index, ¬ (replyAt network query asked i).Settles budget) :
    retry network budget query left last asked =
      (attempt budget (replyAt network query asked index),
        asked ++ List.replicate (index + 1) query) := by
  induction left generalizing index last asked with
  | zero => exact absurd within (Nat.not_lt_zero _)
  | succ left ih =>
    cases index with
    | zero =>
      rw [replyAt_zero] at settled ⊢
      exact retry_succ_of_settles settled left last
    | succ index =>
      have first := before 0 (Nat.succ_pos _)
      rw [replyAt_zero] at first
      obtain ⟨failure, _, goesOn⟩ := retry_succ_of_not_settles first left last
      rw [replyAt_succ] at settled ⊢
      rw [goesOn, ih (Nat.lt_of_succ_lt_succ within) failure _ settled fun i less => by
        rw [← replyAt_succ]
        exact before (i + 1) (Nat.succ_lt_succ less)]
      rw [List.append_assoc, List.singleton_append, ← List.replicate_succ]

/-- **A run that no attempt settles ends with the last attempt.** -/
theorem retry_of_none (left : Nat) (last : Failure) (asked : List Query)
    (unsettled : ∀ i ≤ left, ¬ (replyAt network query asked i).Settles budget) :
    retry network budget query (left + 1) last asked =
      (attempt budget (replyAt network query asked left),
        asked ++ List.replicate (left + 1) query) := by
  induction left generalizing last asked with
  | zero =>
    have first := unsettled 0 le_rfl
    rw [replyAt_zero] at first ⊢
    obtain ⟨failure, outcome, goesOn⟩ := retry_succ_of_not_settles first 0 last
    rw [goesOn, outcome]
    rfl
  | succ left ih =>
    have first := unsettled 0 (Nat.zero_le _)
    rw [replyAt_zero] at first
    obtain ⟨failure, _, goesOn⟩ := retry_succ_of_not_settles first (left + 1) last
    rw [goesOn, replyAt_succ, ih failure _ fun i less => by
      rw [← replyAt_succ]
      exact unsettled (i + 1) (Nat.succ_le_succ less)]
    rw [List.append_assoc, List.singleton_append, ← List.replicate_succ]

/-- **A run does not report the failure it starts with**, as there is an attempt. -/
theorem retry_succ_eq (left : Nat) (first second : Failure) (asked : List Query) :
    retry network budget query (left + 1) first asked =
      retry network budget query (left + 1) second asked := by
  rw [retry, retry]

end Run

/-! ### A call -/

section Call

variable (policy : RetryPolicy) (network : Network) (query : Query) (asked : List Query)

/-- The attempt after `index` others settles the query. -/
def SettledAt (index : Nat) : Prop :=
  (replyAt network query asked index).Settles (policy.attemptBudget query.servers.length)

/-- The outcome of the attempt after `index` others. -/
def outcomeAt (index : Nat) : Outcome :=
  attempt (policy.attemptBudget query.servers.length) (replyAt network query asked index)

/-- What the attempt after `index` others brings. -/
def BringsAt (index : Nat) (outcome : Outcome) : Prop :=
  (replyAt network query asked index).Brings (policy.attemptBudget query.servers.length) outcome

/-- What a call that ends with the attempt after `index` others answers, and what is asked then. -/
def answerAt (index : Nat) : Except ResolutionError (List Record) × List Query :=
  ((outcomeAt policy network query asked index).mapError (transportError query.domain),
    asked ++ List.replicate (index + 1) query)

/-- **A call ends with the first attempt that settles the query**, or with the last one that the
policy allows. -/
theorem ask_spec : ∃ index < policy.maxAttempts,
    (∀ i < index, ¬ SettledAt policy network query asked i) ∧
    (SettledAt policy network query asked index ∨ index + 1 = policy.maxAttempts) ∧
    ask policy network query asked = answerAt policy network query asked index := by
  classical
  by_cases settled : ∃ i, i < policy.maxAttempts ∧ SettledAt policy network query asked i
  · obtain ⟨within, final⟩ := Nat.find_spec settled
    have before : ∀ i < Nat.find settled, ¬ SettledAt policy network query asked i :=
      fun i less early => Nat.find_min settled less ⟨less.trans within, early⟩
    refine ⟨Nat.find settled, within, before, .inl final, ?_⟩
    rw [ask, retry_of_first within noAttempt asked final before]
    rfl
  · obtain ⟨left, limit⟩ := Nat.exists_eq_add_one_of_ne_zero policy.maxAttempts_pos.ne'
    have never : ∀ i ≤ left, ¬ SettledAt policy network query asked i :=
      fun i most early => settled ⟨i, by omega, early⟩
    refine ⟨left, by omega, fun i less => never i less.le, .inr limit.symm, ?_⟩
    rw [ask, limit, retry_of_none left noAttempt asked never]
    rfl

variable {policy network query asked}

theorem outcomeAt_eq_iff {index : Nat} {outcome : Outcome} :
    outcomeAt policy network query asked index = outcome ↔
      BringsAt policy network query asked index outcome := attempt_eq_iff

/-- A call ends with the first attempt that settles the query, if the policy allows it. -/
theorem ask_of_first {index : Nat} (within : index < policy.maxAttempts)
    (first : IsLeast {i | SettledAt policy network query asked i} index) :
    ask policy network query asked = answerAt policy network query asked index := by
  obtain ⟨last, _, before, ended, same⟩ := ask_spec policy network query asked
  have least : index ≤ last := by
    rcases ended with settled | all
    · exact first.2 settled
    · omega
  have most : last ≤ index := Nat.not_lt.1 fun less => before index less first.1
  rw [same, Nat.le_antisymm most least]

/-- A call that no allowed attempt settles ends with the last one. -/
theorem ask_of_unsettled
    (unsettled : ∀ i < policy.maxAttempts, ¬ SettledAt policy network query asked i) :
    ask policy network query asked =
      answerAt policy network query asked (policy.maxAttempts - 1) := by
  obtain ⟨last, within, _, ended, same⟩ := ask_spec policy network query asked
  rcases ended with settled | all
  · exact absurd settled (unsettled last within)
  · rw [same, ← all, Nat.add_sub_cancel]

/-- How often a call asks. -/
theorem ask_snd_of_unsettled
    (unsettled : ∀ i < policy.maxAttempts, ¬ SettledAt policy network query asked i) :
    (ask policy network query asked).2 =
      asked ++ List.replicate policy.maxAttempts query := by
  rw [ask_of_unsettled unsettled]
  show asked ++ List.replicate (policy.maxAttempts - 1 + 1) query = _
  rw [Nat.sub_add_cancel policy.maxAttempts_pos]

/-- Records are brought by the attempt that a call ends with, or by none. -/
theorem exists_records_iff {index : Nat}
    (before : ∀ i < index, ¬ SettledAt policy network query asked i) :
    (∃ i < index + 1, ∃ records, BringsAt policy network query asked i (.ok records)) ↔
      ∃ records, BringsAt policy network query asked index (.ok records) := by
  constructor
  · rintro ⟨i, within, records, brings⟩
    by_cases same : i = index
    · subst same
      exact ⟨records, brings⟩
    · obtain ⟨reason, failed⟩ := attempt_of_not_settles (before i (by omega))
      cases failed.symm.trans (attempt_eq_iff.2 brings)
  · rintro ⟨records, brings⟩
    exact ⟨index, Nat.lt_succ_self _, records, brings⟩

/-- **An error is the network's if no attempt brought records, and the participant's if one did.** -/
theorem resolve_error_kind {service : String} {error : ResolutionError}
    (failed : (resolve policy network query service asked).1 = .error error) :
    let made := (resolve policy network query service asked).2.length - asked.length
    let brought := ∃ i < made, ∃ records, BringsAt policy network query asked i (.ok records)
    (error.isTransport = true ↔ ¬ brought) ∧ (error.isNotRegistered = true ↔ brought) := by
  obtain ⟨index, _, before, _, same⟩ := ask_spec policy network query asked
  have made : (asked ++ List.replicate (index + 1) query).length - asked.length = index + 1 := by
    rw [List.length_append, List.length_replicate, Nat.add_sub_cancel_left]
  rw [resolve_fst, same] at failed
  rw [resolve_snd, same]
  show (_ ↔ ¬ ∃ i < (asked ++ List.replicate (index + 1) query).length - asked.length, _) ∧
    (_ ↔ ∃ i < (asked ++ List.replicate (index + 1) query).length - asked.length, _)
  rw [made, exists_records_iff before]
  simp only [← outcomeAt_eq_iff]
  cases outcome : outcomeAt policy network query asked index with
  | ok records =>
    rw [answerAt, outcome] at failed
    obtain ⟨registered, transport⟩ := isNotRegistered_of_choose failed
    simp [registered, transport]
  | error failure =>
    rw [answerAt, outcome] at failed
    have kind : transportError query.domain failure = error := Except.error.inj failed
    rw [← kind]
    simp [transportError, ResolutionError.isTransport, ResolutionError.isNotRegistered]

/-- **An error names the name that was asked for.** -/
theorem domain_of_resolve {service : String} {error : ResolutionError}
    (failed : (resolve policy network query service asked).1 = .error error) :
    error.domain = query.domain := by
  obtain ⟨index, _, _, _, same⟩ := ask_spec policy network query asked
  rw [resolve_fst, same, answerAt] at failed
  cases outcome : outcomeAt policy network query asked index with
  | ok records =>
    rw [outcome] at failed
    exact domain_of_choose failed
  | error failure =>
    rw [outcome] at failed
    have kind : transportError query.domain failure = error := Except.error.inj failed
    rw [← kind]
    rfl

/-- **A call asks at least once and at most as often as the policy allows**, always the same. -/
theorem exists_asked_resolve (policy : RetryPolicy) (network : Network) (query : Query)
    (service : String) (asked : List Query) : ∃ count, 0 < count ∧ count ≤ policy.maxAttempts ∧
      (resolve policy network query service asked).2 = asked ++ List.replicate count query := by
  obtain ⟨index, within, _, _, same⟩ := ask_spec policy network query asked
  refine ⟨index + 1, Nat.succ_pos index, within, ?_⟩
  rw [resolve_snd, same]
  rfl

/-- A network that answers at once and always the same leaves nothing to the policy. -/
theorem ask_fixed (policy : RetryPolicy) (answer : Query → Outcome) (query : Query)
    (asked : List Query) : (ask policy (.fixed answer) query asked).1 =
      (answer query).mapError (transportError query.domain) := by
  obtain ⟨last, _, _, _, same⟩ := ask_spec policy (.fixed answer) query asked
  have outcome : outcomeAt policy (.fixed answer) query asked last = answer query :=
    attempt_of_inTime rfl (Span.ofNanos_zero_le _)
  rw [same, answerAt, outcome]

/-- A name is resolved by the one record for the service that is answered, if that is usable. -/
theorem resolve_fixed_of_single {answer : Query → Outcome} {query : Query} {service url : String}
    {records : List Record} {record : Record} (policy : RetryPolicy) (asked : List Query)
    (answered : answer query = .ok records)
    (single : records.filter (·.isTerminalFor service) = [record])
    (usable : usableUrl? query.domain record = some url) :
    (resolve policy (.fixed answer) query service asked).1 = .ok url := by
  have brought : (ask policy (.fixed answer) query asked).1 = .ok records := by
    rw [ask_fixed, answered]
    rfl
  have tried : candidates records service = [record] := by
    rw [candidates, single]
    exact List.mergeSort_singleton record
  rw [resolve_of_answer brought, choose, tried]
  simp only [List.findSome?_cons, usable]

end Call

/-- **How often a call asks, what it asks, and what it answers**, for every sequence of replies. The
queries of a call are all the same. Without records it reports, as an error of the network, the failure of
its last attempt in words and as the cause, never the one that stands for no attempt. -/
theorem ask_exact (policy : RetryPolicy) (network : Network) (query : Query) (asked : List Query) :
    (∀ j, IsLeast {i | SettledAt policy network query asked i} j →
      (ask policy network query asked).2 =
        asked ++ List.replicate (min (j + 1) policy.maxAttempts) query ∧
      (j < policy.maxAttempts →
        (∀ records, (replyAt network query asked j).outcome = some (.ok records) →
          (ask policy network query asked).1 = .ok records) ∧
        ∀ failure, (replyAt network query asked j).outcome = some (.error failure) →
          (ask policy network query asked).1 =
            .error { domain := query.domain, kind := .transport
                     detail := failure.message, cause := some failure })) ∧
    ((∀ i, ¬ SettledAt policy network query asked i) →
      (ask policy network query asked).2 =
        asked ++ List.replicate policy.maxAttempts query) ∧
    ((∀ i < policy.maxAttempts, ¬ SettledAt policy network query asked i) →
      ∃ failure, BringsAt policy network query asked (policy.maxAttempts - 1) (.error failure) ∧
        (ask policy network query asked).1 =
          .error { domain := query.domain, kind := .transport
                   detail := failure.message, cause := some failure }) ∧
    (∀ placeholder,
      retry network (policy.attemptBudget query.servers.length) query policy.maxAttempts
        placeholder asked =
      retry network (policy.attemptBudget query.servers.length) query policy.maxAttempts
        noAttempt asked) ∧
    ∀ service error, (resolve policy network query service asked).1 = .error error →
      let made := (resolve policy network query service asked).2.length - asked.length
      let brought := ∃ i < made, ∃ records, BringsAt policy network query asked i (.ok records)
      (error.isTransport = true ↔ ¬ brought) ∧ (error.isNotRegistered = true ↔ brought) := by
  refine ⟨fun j first => ⟨?_, fun within => ?_⟩, fun never => ?_, fun unsettled => ?_,
    fun placeholder => ?_, fun service error failed => resolve_error_kind failed⟩
  · by_cases within : j < policy.maxAttempts
    · rw [ask_of_first within first, Nat.min_eq_left within]
      rfl
    · have most : policy.maxAttempts ≤ j := Nat.not_lt.1 within
      rw [Nat.min_eq_right (most.trans (Nat.le_succ j))]
      exact ask_snd_of_unsettled fun i less settled =>
        absurd (first.2 settled) (Nat.not_le.2 (less.trans_le most))
  · obtain ⟨outcome, answered, inTime, _⟩ := first.1
    have same : outcomeAt policy network query asked j = outcome :=
      attempt_of_inTime answered inTime
    rw [ask_of_first within first, answerAt, same, answered]
    exact ⟨fun records is => by rw [Option.some.inj is]; rfl,
      fun failure is => by rw [Option.some.inj is]; rfl⟩
  · exact ask_snd_of_unsettled fun i _ => never i
  · have last := unsettled (policy.maxAttempts - 1) (Nat.sub_lt policy.maxAttempts_pos Nat.one_pos)
    obtain ⟨reason, outcome⟩ := attempt_of_not_settles last
    refine ⟨.tryAgain reason, attempt_eq_iff.1 outcome, ?_⟩
    rw [ask_of_unsettled unsettled, answerAt, outcomeAt, outcome]
    rfl
  · obtain ⟨left, limit⟩ := Nat.exists_eq_add_one_of_ne_zero policy.maxAttempts_pos.ne'
    rw [limit]
    exact retry_succ_eq left placeholder noAttempt asked

end ServiceLocation.Naptr
