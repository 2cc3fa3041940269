import Mathlib.Data.Prod.Lex
import ServiceLocation.Naptr.Resolver
import ServiceLocation.Proofs.Naptr.Replacement
import ServiceLocation.Proofs.Result
import ServiceLocation.Proofs.StableSort

/-!
**The record that is chosen.**

* `Record.IsTerminal`: a record ends the search for a service; `Record.Yields`: it is usable, too, and
  turns a name into a URL;
* `rank`: order, preference and position of a record, compared in this sequence;
* `findSome?_candidates_iff`: the candidates yield what the usable record of least rank yields;
* `choose_eq_ok_iff`, `choose_noMatchingRecord_iff`, `choose_noUsableRecord_iff`: the three ways in
  which a choice ends;
* `resolve_best_record`: the same for the resolution of a name, whatever records are answered.

The candidates are sorted without regard to what the records yield. So a choice among them is a
choice among all records, sorted (`StableSort.filter_mergeSort`), and there `findSome?` stops at the
first usable one.
-/

namespace ServiceLocation.Naptr

open ServiceLocation.Text

/-! ### Usable records -/

/-- The record ends the search for the service: its flags are a `U`, in either case, and it is for the
service. -/
structure Record.IsTerminal (record : Record) (service : String) : Prop where
  flags : eqIgnoreCase record.flags.toList ['U'] = true
  service : record.service = service

/-- The record ends the search for the service, and its substitution turns the name into a URL. -/
structure Record.Yields (record : Record) (domain service url : String) : Prop where
  terminal : record.IsTerminal service
  length : 4 ≤ record.regexp.utf8ByteSize
  /-- The expression has three parts, its pattern is one, and it matches the name. What matches is
  replaced by what the replacement stands for, and all around it is kept. -/
  rewritten : ∃ substitution pattern found,
    Substitution.parse record.regexp = .ok substitution ∧
    Pattern.ofText? substitution.ignoresCase substitution.pattern.toList = some pattern ∧
    pattern.find? domain.toList = some found ∧
    url = .ofList (found.before ++ substitution.expansion found ++ found.after)
  isUrl : ∃ parsed, Url.parse url.toList = .ok parsed

/-- A record is usable for a name and a service. -/
def Record.Usable (record : Record) (domain service : String) : Prop :=
  ∃ url, record.Yields domain service url

theorem isUrl_iff {text : List Char} : Url.isUrl text = true ↔ ∃ url, Url.parse text = .ok url := by
  unfold Url.isUrl
  cases Url.parse text <;> simp

/-- When a substitution succeeds, and with which text. -/
theorem Substitution.apply_eq_ok_iff {substitution : Substitution} {input output : String} :
    substitution.apply input = .ok output ↔ ∃ pattern found,
      Pattern.ofText? substitution.ignoresCase substitution.pattern.toList = some pattern ∧
      pattern.find? input.toList = some found ∧
      output = .ofList (found.before ++ substitution.expansion found ++ found.after) := by
  unfold apply
  cases compiled : Pattern.ofText? substitution.ignoresCase substitution.pattern.toList with
  | none => simp
  | some pattern =>
    cases matched : pattern.find? input.toList with
    | none => simp [matched]
    | some found => simp [matched, replaceMatch_eq, eq_comm]

/-- When an expression rewrites a text, and to which one. -/
theorem substitute_eq_ok_iff {expression input output : String} :
    substitute expression input = .ok output ↔ ∃ substitution,
      Substitution.parse expression = .ok substitution ∧ substitution.apply input = .ok output := by
  unfold substitute
  cases Substitution.parse expression with
  | error fault => simp [bind, Except.bind]
  | ok substitution => simp [bind, Except.bind]

/-- When a record turns a name into a URL, and into which one. -/
theorem usableUrl?_eq_some_iff {domain url : String} {record : Record} :
    usableUrl? domain record = some url ↔ 4 ≤ record.regexp.utf8ByteSize ∧
      substitute record.regexp domain = .ok url ∧ Url.isUrl url.toList = true := by
  unfold usableUrl?
  by_cases short : record.regexp.utf8ByteSize < leastExpressionBytes
  · rw [if_pos short]
    have tooShort : ¬ 4 ≤ record.regexp.utf8ByteSize := Nat.not_le.2 short
    simp [tooShort]
  · rw [if_neg short]
    have longEnough : 4 ≤ record.regexp.utf8ByteSize := Nat.not_lt.1 short
    cases substitute record.regexp domain with
    | error fault => simp
    | ok rewritten =>
      by_cases accepted : Url.isUrl rewritten.toList = true
      · simp only [accepted, if_true, Option.some.injEq, longEnough, Except.ok.injEq, true_and]
        exact ⟨fun same => ⟨same, same ▸ accepted⟩, fun both => both.1⟩
      · simp only [accepted, Except.ok.injEq, longEnough, true_and]
        refine ⟨fun impossible => by simp at impossible, fun both => ?_⟩
        exact absurd (both.1 ▸ both.2) accepted

/-- The URL of a record, if it is terminal for the service and usable. -/
def terminalUrl? (domain service : String) (record : Record) : Option String :=
  if record.isTerminalFor service then usableUrl? domain record else none

theorem isTerminalFor_iff {record : Record} {service : String} :
    record.isTerminalFor service = true ↔ record.IsTerminal service := by
  rw [Record.isTerminalFor, Bool.and_eq_true, beq_iff_eq]
  exact ⟨fun both => ⟨both.1, both.2⟩, fun terminal => ⟨terminal.flags, terminal.service⟩⟩

/-- **What a record yields is what the search computes for it.** -/
theorem terminalUrl?_eq_some_iff {domain service url : String} {record : Record} :
    terminalUrl? domain service record = some url ↔ record.Yields domain service url := by
  unfold terminalUrl?
  constructor
  · intro yields
    by_cases terminal : record.isTerminalFor service = true
    · rw [if_pos terminal, usableUrl?_eq_some_iff, substitute_eq_ok_iff] at yields
      obtain ⟨length, ⟨substitution, parsed, applied⟩, accepted⟩ := yields
      obtain ⟨pattern, found, compiled, matched, output⟩ := Substitution.apply_eq_ok_iff.1 applied
      exact ⟨isTerminalFor_iff.1 terminal, length,
        ⟨substitution, pattern, found, parsed, compiled, matched, output⟩, isUrl_iff.1 accepted⟩
    · rw [if_neg terminal] at yields
      cases yields
  · rintro ⟨terminal, length, ⟨substitution, pattern, found, parsed, compiled, matched, output⟩,
      accepted⟩
    rw [if_pos (isTerminalFor_iff.2 terminal), usableUrl?_eq_some_iff, substitute_eq_ok_iff]
    exact ⟨length, ⟨substitution, parsed,
      Substitution.apply_eq_ok_iff.2 ⟨pattern, found, compiled, matched, output⟩⟩,
      isUrl_iff.2 accepted⟩

theorem terminalUrl?_ne_none_iff {domain service : String} {record : Record} :
    terminalUrl? domain service record ≠ none ↔ record.Usable domain service := by
  rw [Option.ne_none_iff_exists']
  exact exists_congr fun url => terminalUrl?_eq_some_iff

/-! ### The order of preference -/

/-- Order, preference and position of a record, compared in this sequence. -/
def rank (record : Record) (position : Nat) : ℕ ×ₗ ℕ ×ₗ ℕ :=
  toLex (record.order.toNat, toLex (record.preference.toNat, position))

theorem notAfter_iff {first second : Record} :
    first.notAfter second = true ↔ first.order.toNat < second.order.toNat ∨
      first.order.toNat = second.order.toNat ∧
        first.preference.toNat ≤ second.preference.toNat := by
  simp [Record.notAfter, UInt16.lt_iff_toNat_lt, UInt16.le_iff_toNat_le, UInt16.toNat_inj]

theorem notAfter_trans (first second third : Record) (before : first.notAfter second = true)
    (after : second.notAfter third = true) : first.notAfter third = true := by
  rw [notAfter_iff] at before after ⊢
  omega

theorem notAfter_total (first second : Record) :
    (first.notAfter second || second.notAfter first) = true := by
  rw [Bool.or_eq_true, notAfter_iff, notAfter_iff]
  omega

theorem rank_le_iff {first second : Record} {i j : Nat} :
    rank first i ≤ rank second j ↔ first.order.toNat < second.order.toNat ∨
      first.order.toNat = second.order.toNat ∧
        (first.preference.toNat < second.preference.toNat ∨
          first.preference.toNat = second.preference.toNat ∧ i ≤ j) := by
  simp [rank, Prod.Lex.le_iff]

/-- Sorting by order and preference, ties broken by position, is sorting by rank. -/
theorem rank_le_of_zipIdxLE {first second : Record} {i j : Nat}
    (before : List.zipIdxLE Record.notAfter (first, i) (second, j) = true) :
    rank first i ≤ rank second j := by
  rw [rank_le_iff]
  by_cases forth : first.notAfter second = true
  · by_cases back : second.notAfter first = true
    · simp only [List.zipIdxLE, forth, back, if_true, decide_eq_true_eq] at before
      rw [notAfter_iff] at forth back
      omega
    · rw [notAfter_iff] at forth back
      omega
  · simp [List.zipIdxLE, forth] at before

/-- Only one position has a given rank. -/
theorem position_eq_of_rank_le {first second : Record} {i j : Nat}
    (before : rank first i ≤ rank second j) (after : rank second j ≤ rank first i) : i = j := by
  rw [rank_le_iff] at before after
  omega

/-! ### The choice -/

/-- The record at a position is the usable one of least rank. -/
structure IsBest (records : List Record) (domain service : String) (position : Nat)
    (record : Record) : Prop where
  placed : records[position]? = some record
  usable : record.Usable domain service
  least : ∀ (j : Nat) (other : Record), records[j]? = some other →
    other.Usable domain service → rank record position ≤ rank other j

/-- A search among the candidates is one among all records, sorted. -/
theorem findSome?_candidates (domain service : String) (records : List Record) :
    (candidates records service).findSome? (usableUrl? domain) =
      (records.mergeSort Record.notAfter).findSome? (terminalUrl? domain service) := by
  rw [candidates, ← StableSort.filter_mergeSort notAfter_trans notAfter_total,
    StableSort.findSome?_filter]
  rfl

/-- **The candidates yield what the best record yields.** -/
theorem findSome?_candidates_iff {domain service url : String} {records : List Record} :
    (candidates records service).findSome? (usableUrl? domain) = some url ↔
      ∃ position record, IsBest records domain service position record ∧
        record.Yields domain service url := by
  have best : ∀ {url}, (records.mergeSort Record.notAfter).findSome?
      (terminalUrl? domain service) = some url →
      ∃ position record, IsBest records domain service position record ∧
        record.Yields domain service url := by
    intro url found
    obtain ⟨i, record, placed, success, least⟩ :=
      StableSort.findSome?_mergeSort notAfter_trans notAfter_total found
    have yields := terminalUrl?_eq_some_iff.1 success
    exact ⟨i, record, ⟨placed, ⟨url, yields⟩, fun j other there usable =>
      rank_le_of_zipIdxLE (least j other there (terminalUrl?_ne_none_iff.2 usable))⟩, yields⟩
  rw [findSome?_candidates]
  refine ⟨best, ?_⟩
  rintro ⟨i, record, ⟨placed, usable, least⟩, yields⟩
  have member : record ∈ records.mergeSort Record.notAfter :=
    List.mem_mergeSort.2 (List.mem_of_getElem? placed)
  cases found : (records.mergeSort Record.notAfter).findSome? (terminalUrl? domain service) with
  | none =>
    exact absurd (List.findSome?_eq_none_iff.1 found record member)
      (terminalUrl?_ne_none_iff.2 usable)
  | some other =>
    obtain ⟨j, second, ⟨placed', usable', least'⟩, yields'⟩ := best found
    have same := position_eq_of_rank_le (least j second placed' usable')
      (least' i record placed usable)
    subst same
    rw [placed, Option.some.injEq] at placed'
    subst placed'
    rw [← terminalUrl?_eq_some_iff] at yields yields'
    exact yields'.symm.trans yields

theorem findSome?_candidates_eq_none_iff {domain service : String} {records : List Record} :
    (candidates records service).findSome? (usableUrl? domain) = none ↔
      ∀ record ∈ records, ¬ record.Usable domain service := by
  rw [findSome?_candidates, List.findSome?_eq_none_iff]
  refine forall_congr' fun record => ?_
  rw [List.mem_mergeSort, ← terminalUrl?_ne_none_iff, not_not]

theorem candidates_eq_nil_iff {service : String} {records : List Record} :
    candidates records service = [] ↔ ∀ record ∈ records, ¬ record.IsTerminal service := by
  rw [candidates, ← List.length_eq_zero_iff, List.length_mergeSort, List.length_eq_zero_iff,
    List.filter_eq_nil_iff]
  simp only [isTerminalFor_iff]

/-- How a choice ends, by what the candidates yield. -/
theorem choose_cases (domain service : String) (records : List Record) :
    (candidates records service = [] ∧ ∃ error, choose domain service records = .error error ∧
        error.kind = .noMatchingRecord) ∨
    (candidates records service ≠ [] ∧
      (candidates records service).findSome? (usableUrl? domain) = none ∧
      ∃ error, choose domain service records = .error error ∧ error.kind = .noUsableRecord) ∨
    ∃ url, (candidates records service).findSome? (usableUrl? domain) = some url ∧
      choose domain service records = .ok url := by
  unfold choose
  cases tried : candidates records service with
  | nil => exact .inl ⟨rfl, _, rfl, rfl⟩
  | cons first rest =>
    refine .inr ?_
    cases found : (first :: rest).findSome? (usableUrl? domain) with
    | none => exact .inl ⟨List.cons_ne_nil _ _, rfl, _, by simp only [found]; rfl, rfl⟩
    | some url => exact .inr ⟨url, rfl, by simp only [found]⟩

section Endings

variable {domain service : String} {records : List Record}

/-- **A choice succeeds with what the best record yields.** -/
theorem choose_eq_ok_iff {url : String} :
    choose domain service records = .ok url ↔
      ∃ position record, IsBest records domain service position record ∧
        record.Yields domain service url := by
  rw [← findSome?_candidates_iff]
  rcases choose_cases domain service records with
    ⟨empty, error, failed, _⟩ | ⟨_, nothing, error, failed, _⟩ | ⟨other, found, chosen⟩
  · simp [failed, empty]
  · simp [failed, nothing]
  · simp [chosen, found]

/-- A choice succeeds if a record is usable, and only then. -/
theorem choose_isOk_iff :
    (∃ url, choose domain service records = .ok url) ↔
      ∃ record ∈ records, record.Usable domain service := by
  have nothing : (candidates records service).findSome? (usableUrl? domain) = none ↔ _ :=
    findSome?_candidates_eq_none_iff
  rcases choose_cases domain service records with
    ⟨empty, error, failed, _⟩ | ⟨_, none_, error, failed, _⟩ | ⟨url, found, chosen⟩
  · rw [empty] at nothing
    have unusable := nothing.1 rfl
    simpa [failed] using unusable
  · have unusable := nothing.1 none_
    simpa [failed] using unusable
  · obtain ⟨position, record, best, _⟩ := findSome?_candidates_iff.1 found
    exact ⟨fun _ => ⟨record, List.mem_of_getElem? best.placed, best.usable⟩, fun _ => ⟨url, chosen⟩⟩

/-- A choice fails for want of a matching record if no record is terminal for the service, and only
then. -/
theorem choose_noMatchingRecord_iff :
    (∃ error, choose domain service records = .error error ∧ error.kind = .noMatchingRecord) ↔
      ∀ record ∈ records, ¬ record.IsTerminal service := by
  rw [← candidates_eq_nil_iff]
  rcases choose_cases domain service records with
    ⟨empty, error, failed, kind⟩ | ⟨some_, _, error, failed, kind⟩ | ⟨url, found, chosen⟩
  · exact ⟨fun _ => empty, fun _ => ⟨error, failed, kind⟩⟩
  · simp [failed, kind, some_]
  · have some_ : candidates records service ≠ [] := by
      rintro empty
      rw [empty] at found
      cases found
    simp [chosen, some_]

/-- A choice fails for want of a usable record if records are terminal for the service but none of
them is usable, and only then. -/
theorem choose_noUsableRecord_iff :
    (∃ error, choose domain service records = .error error ∧ error.kind = .noUsableRecord) ↔
      (∃ record ∈ records, record.IsTerminal service) ∧
        ∀ record ∈ records, ¬ record.Usable domain service := by
  have terminal : (∃ record ∈ records, record.IsTerminal service) ↔
      candidates records service ≠ [] := by
    rw [Ne, candidates_eq_nil_iff]
    simp
  rw [terminal, ← findSome?_candidates_eq_none_iff]
  rcases choose_cases domain service records with
    ⟨empty, error, failed, kind⟩ | ⟨some_, nothing, error, failed, kind⟩ | ⟨url, found, chosen⟩
  · simp [failed, kind, empty]
  · exact ⟨fun _ => ⟨some_, nothing⟩, fun _ => ⟨error, failed, kind⟩⟩
  · simp [chosen, found]

/-- A choice that fails says that nothing usable is registered. -/
theorem isNotRegistered_of_choose {error : ResolutionError}
    (failed : choose domain service records = .error error) :
    error.isNotRegistered = true ∧ error.isTransport = false := by
  rcases choose_cases domain service records with
    ⟨_, other, same, kind⟩ | ⟨_, _, other, same, kind⟩ | ⟨url, _, chosen⟩
  · rw [failed, Except.error.injEq] at same
    subst same
    simp [ResolutionError.isNotRegistered, ResolutionError.isTransport, kind]
  · rw [failed, Except.error.injEq] at same
    subst same
    simp [ResolutionError.isNotRegistered, ResolutionError.isTransport, kind]
  · rw [failed] at chosen
    cases chosen

/-- A choice that fails names the name it was made for. -/
theorem domain_of_choose {error : ResolutionError}
    (failed : choose domain service records = .error error) : error.domain = domain := by
  unfold choose at failed
  split at failed
  · rw [← Except.error.inj failed]
  · split at failed
    · cases failed
    · rw [← Except.error.inj failed]

end Endings

/-! ### The resolution of a name -/

/-- A name is resolved by a choice among the records that are answered, if any are. -/
theorem resolve_fst (policy : RetryPolicy) (network : Network) (query : Query) (service : String)
    (asked : List Query) : (resolve policy network query service asked).1 =
      (ask policy network query asked).1.bind (choose query.domain service) := rfl

/-- Nothing but the records is asked for. -/
theorem resolve_snd (policy : RetryPolicy) (network : Network) (query : Query) (service : String)
    (asked : List Query) :
    (resolve policy network query service asked).2 = (ask policy network query asked).2 := rfl

theorem resolve_of_answer {policy : RetryPolicy} {network : Network} {query : Query}
    {asked : List Query} {records : List Record}
    (answered : (ask policy network query asked).1 = .ok records) (service : String) :
    (resolve policy network query service asked).1 = choose query.domain service records := by
  rw [resolve_fst, answered]
  rfl

/-- A name is resolved to a URL if it is resolved. -/
theorem isUrl_of_resolve {policy : RetryPolicy} {network : Network} {query : Query}
    {service url : String} {asked : List Query}
    (resolved : (resolve policy network query service asked).1 = .ok url) :
    ∃ parsed, Url.parse url.toList = .ok parsed := by
  rw [resolve_fst] at resolved
  obtain ⟨records, _, chosen⟩ := bind_eq_ok_iff.1 resolved
  obtain ⟨_, _, _, yields⟩ := choose_eq_ok_iff.1 chosen
  exact yields.isUrl

/-- **A name is resolved to what the best of the answered records yields**, and fails otherwise, in
one of two ways. -/
theorem resolve_best_record {policy : RetryPolicy} {network : Network} {query : Query}
    {asked : List Query} {records : List Record} (service : String)
    (answered : (ask policy network query asked).1 = .ok records) :
    (∀ url, (resolve policy network query service asked).1 = .ok url ↔
      ∃ position record, IsBest records query.domain service position record ∧
        record.Yields query.domain service url) ∧
    ((∃ url, (resolve policy network query service asked).1 = .ok url) ↔
      ∃ record ∈ records, record.Usable query.domain service) ∧
    ((∃ error, (resolve policy network query service asked).1 = .error error ∧
        error.kind = .noMatchingRecord) ↔
      ∀ record ∈ records, ¬ record.IsTerminal service) ∧
    ((∃ error, (resolve policy network query service asked).1 = .error error ∧
        error.kind = .noUsableRecord) ↔
      (∃ record ∈ records, record.IsTerminal service) ∧
        ∀ record ∈ records, ¬ record.Usable query.domain service) := by
  rw [resolve_of_answer answered]
  exact ⟨fun url => choose_eq_ok_iff, choose_isOk_iff, choose_noMatchingRecord_iff,
    choose_noUsableRecord_iff⟩

/-- Two usable records of equal order and preference, behind a broken one and a foreign one. The first of
them refers to a group, and matches only a part of most names. -/
def mixedRecords : List Record :=
  [⟨100, 10, "U", "s", "!^.*$!s:late!", "."⟩, ⟨50, 20, "u", "s", "!\\.(a.c)!:\\1@first!", "."⟩,
   ⟨50, 20, "U", "s", "!^.*$!s:second!", "."⟩, ⟨50, 10, "U", "s", "!(!s:broken!", "."⟩,
   ⟨1, 1, "U", "other", "!^.*$!s:foreign!", "."⟩]

/-- Of the two, the one that is answered first is chosen, and what stands around its match is kept. -/
theorem resolve_mixedRecords :
    (ask .standard (Network.fixed fun _ => .ok mixedRecords)
        { domain := "smp.abc.example.org", servers := [] } []).1 = .ok mixedRecords ∧
      (resolve .standard (Network.fixed fun _ => .ok mixedRecords)
        { domain := "smp.abc.example.org", servers := [] } "s" []).1 =
          .ok "smp:abc@first.example.org" := by
  have yields : Record.Yields ⟨50, 20, "u", "s", "!\\.(a.c)!:\\1@first!", "."⟩ "smp.abc.example.org" "s"
      "smp:abc@first.example.org" :=
    terminalUrl?_eq_some_iff.1 (by decide +kernel)
  have least : ∀ entry ∈ mixedRecords.zipIdx, terminalUrl? "smp.abc.example.org" "s" entry.1 ≠ none →
      rank ⟨50, 20, "u", "s", "!\\.(a.c)!:\\1@first!", "."⟩ 1 ≤ rank entry.1 entry.2 := by
    decide +kernel
  refine ⟨rfl, ((resolve_best_record "s" rfl).1 "smp:abc@first.example.org").2
    ⟨1, _, ⟨rfl, ⟨_, yields⟩, fun j other placed usable => ?_⟩, yields⟩⟩
  exact least (other, j) (List.mk_mem_zipIdx_iff_getElem?.2 placed)
    (terminalUrl?_ne_none_iff.2 usable)

end ServiceLocation.Naptr
