import ServiceLocation.Proofs.Naptr.Choice

/-!
**The order in which records are tried.**

The candidates for a service are its terminal records, sorted by order and preference; the sort is
stable. So of an answer only the sequences of terminal records with equal order and preference
count.

* `Record.isAt`: whether a record has an order and a preference;
* `filter_candidates`: **records of equal order and preference are tried as answered**;
* `candidates_eq_iff`: the same records are tried in the same order exactly if those sequences agree;
* `choose_eq_choose_of_candidates`: a choice depends on the candidates alone, errors included;
* `candidates_stable`: the three together, and what follows for the resolution of a name.
-/

namespace ServiceLocation.Naptr

open ServiceLocation.Text

/-- Whether a record has an order and a preference. -/
def Record.isAt (order preference : UInt16) (record : Record) : Bool :=
  record.order == order && record.preference == preference

/-- Records are not told apart exactly if their orders and preferences are equal. -/
theorem tiesWith_notAfter (first : Record) :
    StableSort.tiesWith Record.notAfter first = Record.isAt first.order first.preference := by
  funext second
  rw [Bool.eq_iff_iff, StableSort.tiesWith, Bool.and_eq_true, notAfter_iff, notAfter_iff,
    Record.isAt, Bool.and_eq_true, beq_iff_eq, beq_iff_eq, ← UInt16.toNat_inj, ← UInt16.toNat_inj]
  omega

section

variable {records records' : List Record} {service : String}

/-- **Records of equal order and preference are tried as they were answered.** -/
theorem filter_candidates (records : List Record) (service : String) (order preference : UInt16) :
    (candidates records service).filter (Record.isAt order preference) =
      (records.filter (·.isTerminalFor service)).filter (Record.isAt order preference) := by
  have ties := StableSort.filter_tiesWith_mergeSort notAfter_trans notAfter_total
    ⟨order, preference, "", "", "", ""⟩ (records.filter (·.isTerminalFor service))
  rwa [tiesWith_notAfter] at ties

/-- **The same records are tried in the same order exactly if those of equal order and preference are
answered in the same order.** -/
theorem candidates_eq_iff : candidates records service = candidates records' service ↔
    ∀ order preference,
      (records.filter (·.isTerminalFor service)).filter (Record.isAt order preference) =
        (records'.filter (·.isTerminalFor service)).filter (Record.isAt order preference) := by
  constructor
  · intro same order preference
    rw [← filter_candidates, same, filter_candidates]
  · intro same
    refine (StableSort.mergeSort_eq_mergeSort_iff notAfter_trans notAfter_total).2 fun record => ?_
    rw [tiesWith_notAfter]
    exact same record.order record.preference

theorem perm_candidates (records : List Record) (service : String) :
    (candidates records service).Perm (records.filter (·.isTerminalFor service)) :=
  List.mergeSort_perm _ _

theorem pairwise_candidates (records : List Record) (service : String) :
    (candidates records service).Pairwise fun first second =>
      first.order < second.order ∨
        first.order = second.order ∧ first.preference ≤ second.preference := by
  refine (List.pairwise_mergeSort notAfter_trans notAfter_total _).imp fun before => ?_
  rw [notAfter_iff] at before
  rwa [UInt16.lt_iff_toNat_lt, UInt16.le_iff_toNat_le, ← UInt16.toNat_inj]

/-- A choice depends on the candidates alone, in its result and in the wording of its error. -/
theorem choose_eq_choose_of_candidates
    (same : candidates records service = candidates records' service) (domain : String) :
    choose domain service records = choose domain service records' := by
  unfold choose
  rw [same]

/-- Resolutions of a name that are answered records which are tried alike end alike. -/
theorem resolve_eq_resolve_of_candidates
    (same : candidates records service = candidates records' service)
    {policy policy' : RetryPolicy} {network network' : Network} {query query' : Query}
    {asked asked' : List Query} (domain : query.domain = query'.domain)
    (answered : (ask policy network query asked).1 = .ok records)
    (answered' : (ask policy' network' query' asked').1 = .ok records') :
    (resolve policy network query service asked).1 =
      (resolve policy' network' query' service asked').1 := by
  rw [resolve_of_answer answered, resolve_of_answer answered', domain,
    choose_eq_choose_of_candidates same]

end

/-- **The records that are tried for a service are its terminal records, sorted by order and
preference, and as they were answered where both are equal.** So two answers in which the terminal
records of each order and preference stand in the same order lead to the same end, be it a URL or an
error, for whatever reason and by whomever they are answered. -/
theorem candidates_stable (records : List Record) (service : String) :
    (candidates records service).Perm (records.filter (·.isTerminalFor service)) ∧
    ((candidates records service).Pairwise fun first second =>
      first.order < second.order ∨
        first.order = second.order ∧ first.preference ≤ second.preference) ∧
    (∀ order preference,
      (candidates records service).filter (Record.isAt order preference) =
        (records.filter (·.isTerminalFor service)).filter (Record.isAt order preference)) ∧
    ∀ records',
      (∀ order preference,
        (records.filter (·.isTerminalFor service)).filter (Record.isAt order preference) =
          (records'.filter (·.isTerminalFor service)).filter (Record.isAt order preference)) →
      ∀ policy policy' network network' query query' asked asked',
        query.domain = query'.domain →
        (ask policy network query asked).1 = .ok records →
        (ask policy' network' query' asked').1 = .ok records' →
          (resolve policy network query service asked).1 =
            (resolve policy' network' query' service asked').1 := by
  refine ⟨perm_candidates records service, pairwise_candidates records service,
    filter_candidates records service, ?_⟩
  intro records' same policy policy' network network' query query' asked asked' domain answered
    answered'
  exact resolve_eq_resolve_of_candidates (candidates_eq_iff.2 same) domain answered answered'

/-- Two records of equal order and preference, and one that comes before them. -/
def tiedRecords : List Record :=
  [⟨50, 20, "u", "s", "!x!s:first!", "."⟩, ⟨50, 20, "U", "s", "!x!s:second!", "."⟩,
   ⟨50, 10, "U", "s", "!(!s:broken!", "."⟩]

/-- The same records, the first two in the same order, and one for another service. -/
def shuffledRecords : List Record :=
  [⟨50, 10, "U", "s", "!(!s:broken!", "."⟩, ⟨50, 20, "u", "s", "!x!s:first!", "."⟩,
   ⟨1, 1, "U", "other", "!x!s:foreign!", "."⟩, ⟨50, 20, "U", "s", "!x!s:second!", "."⟩]

theorem candidates_stable_of_shuffled :
    tiedRecords ≠ shuffledRecords ∧
      (resolve .standard (.fixed fun _ => .ok tiedRecords) { domain := "x", servers := [] } "s"
          []).1 =
        (resolve .standard (.fixed fun _ => .ok shuffledRecords) { domain := "x", servers := [] }
          "s" []).1 := by
  have terminal : tiedRecords.filter (·.isTerminalFor "s") = tiedRecords := by decide
  have terminal' : shuffledRecords.filter (·.isTerminalFor "s") =
      ⟨50, 10, "U", "s", "!(!s:broken!", "."⟩ :: tiedRecords.take 2 := by decide
  have same : ∀ order preference,
      (tiedRecords.filter (·.isTerminalFor "s")).filter (Record.isAt order preference) =
        (shuffledRecords.filter (·.isTerminalFor "s")).filter (Record.isAt order preference) := by
    intro order preference
    rw [terminal, terminal']
    by_cases ten : preference = 10
    · rw [ten]
      simp [tiedRecords, Record.isAt, List.filter_cons]
    · simp [tiedRecords, Record.isAt, List.filter_cons, Ne.symm ten]
  exact ⟨by decide, (candidates_stable tiedRecords "s").2.2.2 shuffledRecords same
    _ _ _ _ _ _ _ _ rfl rfl rfl⟩

end ServiceLocation.Naptr
