import ServiceLocation.Proofs.Locator.Key
import ServiceLocation.Proofs.Naptr.Retry

/-!
**Which calls make queries.**

A call is answered without a query in four ways, which are tried in this order: its name is rejected,
it has no service to ask for, the server that is asked first is no address, the cache knows its key.

* `Settled`: what a call answers that is answered so;
* `settled_or_misses`: every other call asks for a key that the cache does not tell;
* `resolveWith_of_settled`, `exists_asked_of_misses`: **the former make no query and change nothing,
  the latter make one or more**, all alike and no more than the policy allows;
* `error_cases`: what is wrong with a call that fails;
* `queries_of_resolveWith`: when a call makes queries, what it answers if it does not, and what its
  errors say and leave behind.
-/

namespace ServiceLocation.Locator

open ServiceLocation.Address ServiceLocation.Text ServiceLocation.Naptr

section

variable {locator : Locator} {network : Network} {participant : Participant} {zone : String}
  {options : ResolveOptions} {memory : Memory} {cache : Cache}

/-! ### Ends without a query -/

/-- What a call answers without a query: it ends before it asks, or else the cache knows its key. -/
inductive Settled (locator : Locator) (participant : Participant) (zone : String)
    (options : ResolveOptions) (cache : Cache) : Except LocationError String → Prop where
  | ends {result : Except LocationError String}
    (ends : locator.Ends participant zone options result) :
    Settled locator participant zone options cache result
  | known {name service url : String} {servers : List Endpoint}
    (asks : locator.Asks participant zone options name service servers)
    (enabled : locator.useCache = true)
    (hit : cache.get? (Cache.key name service options.primaryText) = some url) :
    Settled locator participant zone options cache (.ok url)

/-- A call looks up a key that the cache does not know, or may not be asked for. -/
structure Misses (locator : Locator) (participant : Participant) (zone : String)
    (options : ResolveOptions) (cache : Cache) (name service : String) (servers : List Endpoint) :
    Prop where
  asks : locator.Asks participant zone options name service servers
  miss : locator.useCache = true →
    cache.get? (Cache.key name service options.primaryText) = none

theorem target?_eq_none_iff :
    locator.target? options = none ↔ locator.service = none ∨ options.useNaptr = false := by
  unfold target?
  cases options.useNaptr <;> simp

theorem service_of_target? {service : String} (target : locator.target? options = some service) :
    locator.service = some service := by
  unfold target? at target
  split at target
  · exact target
  · cases target

theorem resolveWith_of_noTarget (target : locator.target? options = none) :
    locator.resolveWith network participant zone options memory =
      (locator.dnsName participant zone, memory) := by
  cases named : locator.dnsName participant zone with
  | error error => exact resolveWith_of_ends (.rejected named)
  | ok name => exact resolveWith_of_ends (.noTarget named target)

/-- The list of a call fails exactly if the server that is asked first is no address. -/
theorem serverList_eq_error_iff {error : LocationError} :
    locator.serverList options.primaryText = .error error ↔
      ∃ text, options.primaryText = some text ∧ Endpoint.ofText? text = none ∧
        error = .invalidInput (.invalidServer text) := by
  cases given : options.primaryText with
  | none => simp [serverList]
  | some text =>
    have whole : trimmed text = text := by
      rw [← String.toList_inj, toList_trimmed, ResolveOptions.trim_of_primaryText given]
    cases read : Endpoint.ofText? text with
    | none => simp [serverList, readServer, read, whole, bind, Except.bind, eq_comm]
    | some server => simp [serverList, readServer, read, bind, Except.bind]

/-- **A call that is settled makes no query and changes nothing.** -/
theorem resolveWith_of_settled {result : Except LocationError String}
    (settled : locator.Settled participant zone options memory.cache result) :
    locator.resolveWith network participant zone options memory = (result, memory) := by
  cases settled with
  | ends ends => exact resolveWith_of_ends ends
  | known asks enabled hit => rw [resolveWith_of_asks asks, lookUp_of_hit enabled hit]

/-- **A call is settled, or it asks for a key that the cache does not tell.** -/
theorem settled_or_misses (locator : Locator) (participant : Participant) (zone : String)
    (options : ResolveOptions) (cache : Cache) :
    (∃ result, locator.Settled participant zone options cache result) ∨
      ∃ name service servers,
        locator.Misses participant zone options cache name service servers := by
  rcases ends_or_asks locator participant zone options with
    ⟨result, ends⟩ | ⟨name, service, servers, asks⟩
  · exact .inl ⟨result, .ends ends⟩
  · by_cases hit : locator.useCache = true ∧
        ∃ url, cache.get? (Cache.key name service options.primaryText) = some url
    · obtain ⟨enabled, url, found⟩ := hit
      exact .inl ⟨_, .known asks enabled found⟩
    · refine .inr ⟨name, service, servers, asks, fun enabled => ?_⟩
      exact Option.eq_none_iff_forall_ne_some.2 fun url found => hit ⟨enabled, url, found⟩

/-! ### Queries -/

/-- **Every other call makes a query or more**, all for its name and of its servers. -/
theorem exists_asked_of_misses (network : Network) {name service : String}
    {servers : List Endpoint}
    (misses : locator.Misses participant zone options memory.cache name service servers) :
    ∃ count, 0 < count ∧ count ≤ locator.policy.maxAttempts ∧
      (locator.resolveWith network participant zone options memory).2.asked =
        memory.asked ++ List.replicate count { domain := name, servers } := by
  rw [resolveWith_of_asks misses.asks, asked_lookUp_of_miss misses.miss]
  exact exists_asked_resolve locator.policy network _ service memory.asked

theorem asked_ne_of_misses {name service : String} {servers : List Endpoint}
    (misses : locator.Misses participant zone options memory.cache name service servers) :
    (locator.resolveWith network participant zone options memory).2.asked ≠ memory.asked := by
  obtain ⟨count, positive, _, asked⟩ := exists_asked_of_misses network misses
  rw [asked]
  intro same
  have none : count = 0 := by simpa using List.append_right_eq_self.1 same
  omega

/-- **A call makes no query exactly if it is settled.** -/
theorem asked_eq_iff_settled :
    (locator.resolveWith network participant zone options memory).2.asked = memory.asked ↔
      ∃ result, locator.Settled participant zone options memory.cache result := by
  constructor
  · intro same
    rcases settled_or_misses locator participant zone options memory.cache with
      settled | ⟨name, service, servers, misses⟩
    · exact settled
    · exact absurd same (asked_ne_of_misses misses)
  · rintro ⟨result, settled⟩
    rw [resolveWith_of_settled settled]

/-- The ways in which a call is settled, each taken by itself. -/
theorem exists_settled_iff : (∃ result, locator.Settled participant zone options cache result) ↔
    (∃ error, locator.dnsName participant zone = .error error) ∨
      (locator.service = none ∨ options.useNaptr = false) ∨
      (∃ text, options.primaryText = some text ∧ Endpoint.ofText? text = none) ∨
      (locator.useCache = true ∧ ∃ name service url,
        locator.dnsName participant zone = .ok name ∧ locator.service = some service ∧
          cache.get? (Cache.key name service options.primaryText) = some url) := by
  rw [← target?_eq_none_iff]
  constructor
  · rintro ⟨result, settled⟩
    cases settled with
    | ends ends =>
      cases ends with
      | rejected named => exact .inl ⟨_, named⟩
      | noTarget named target => exact .inr (.inl target)
      | noServer named target listed =>
        obtain ⟨text, given, unread, _⟩ := serverList_eq_error_iff.1 listed
        exact .inr (.inr (.inl ⟨text, given, unread⟩))
    | known asks enabled hit =>
      exact .inr (.inr (.inr ⟨enabled, _, _, _, asks.named, service_of_target? asks.target, hit⟩))
  · intro ends
    -- What a call needs to get to a key that is not known denies each of the four.
    rcases settled_or_misses locator participant zone options cache with
      settled | ⟨name, service, servers, ⟨named, target, listed⟩, miss⟩
    · exact settled
    · exfalso
      rcases ends with ⟨error, rejected⟩ | none | ⟨text, given, unread⟩ |
        ⟨enabled, name', service', url, named', has, hit⟩
      · cases named.symm.trans rejected
      · cases target.symm.trans none
      · cases listed.symm.trans (serverList_eq_error_iff.2 ⟨text, given, unread, rfl⟩)
      · have same : service = service' :=
          Option.some.inj ((service_of_target? target).symm.trans has)
        rw [← Except.ok.inj (named.symm.trans named'), ← same] at hit
        cases (miss enabled).symm.trans hit

/-! ### Errors -/

/-- **What is wrong with a call that fails**: its name, the server that is asked first, or the
resolution of the name. -/
theorem error_cases {error : LocationError}
    (failed : (locator.resolveWith network participant zone options memory).1 = .error error) :
    locator.dnsName participant zone = .error error ∨
      (∃ text, error = .invalidInput (.invalidServer text)) ∨
      ∃ cause, error = .resolution cause ∧ locator.dnsName participant zone = .ok cause.domain := by
  rcases settled_or_misses locator participant zone options memory.cache with
    ⟨result, settled⟩ | ⟨name, service, servers, misses⟩
  · rw [resolveWith_of_settled settled] at failed
    cases settled with
    | ends ends =>
      cases ends with
      | rejected named => exact .inl (named.trans failed)
      | noTarget => cases failed
      | noServer named target listed =>
        obtain ⟨text, _, _, is⟩ := serverList_eq_error_iff.1 listed
        exact .inr (.inl ⟨text, (Except.error.inj failed).symm.trans is⟩)
    | known => cases failed
  · rw [resolveWith_of_asks misses.asks, lookUp_of_miss misses.miss] at failed
    cases resolved : (Naptr.resolve locator.policy network { domain := name, servers } service
        memory.asked).1 with
    | ok url =>
      rw [resolved] at failed
      cases failed
    | error cause =>
      rw [resolved] at failed
      refine .inr (.inr ⟨cause, (Except.error.inj failed).symm, ?_⟩)
      rw [domain_of_resolve resolved]
      exact misses.asks.named

/-- **A failed resolution is one of the name**, and so says its error. -/
theorem dnsName_of_resolution_error {error : ResolutionError}
    (failed : (locator.resolveWith network participant zone options memory).1 =
      .error (.resolution error)) : locator.dnsName participant zone = .ok error.domain := by
  rcases error_cases failed with rejected | ⟨text, noServer⟩ | ⟨cause, same, named⟩
  · -- The errors of a name are of other kinds.
    rcases dnsName_error_cases rejected with noZone | ⟨url, fault, noHost⟩
    · cases noZone
    · cases noHost
  · cases noServer
  · rwa [LocationError.resolution.inj same]

theorem resolveWith_ne_runtime (fault : RuntimeFault) :
    (locator.resolveWith network participant zone options memory).1 ≠ .error (.runtime fault) := by
  intro refused
  rcases error_cases refused with rejected | ⟨text, noServer⟩ | ⟨cause, same, _⟩
  · rcases dnsName_error_cases rejected with noZone | ⟨url, fault, noHost⟩
    · cases noZone
    · cases noHost
  · cases noServer
  · cases same

/-- **A call that fails leaves the cache as it is.** -/
theorem cache_of_error {error : LocationError}
    (failed : (locator.resolveWith network participant zone options memory).1 = .error error) :
    (locator.resolveWith network participant zone options memory).2.cache = memory.cache := by
  rcases settled_or_misses locator participant zone options memory.cache with
    ⟨result, settled⟩ | ⟨name, service, servers, misses⟩
  · rw [resolveWith_of_settled settled]
  · rw [resolveWith_of_asks misses.asks] at failed ⊢
    exact cache_lookUp_eq (.inl ⟨error, failed⟩)

end

/-- **Which calls make queries, and what the others answer.** A call makes none exactly if its name is
rejected, it has no service to ask for, the server that is asked first is no address or the cache knows
its key. The first of these that is so decides the answer, and nothing changes. Every other call asks
for its name, once or more and no more often than the policy allows. What a failed resolution names is
the name of the call, and no call that fails changes the cache. -/
theorem queries_of_resolveWith (locator : Locator) (network : Network) (participant : Participant)
    (zone : String) (options : ResolveOptions) (memory : Memory) :
    let call := locator.resolveWith network participant zone options memory
    (call.2.asked = memory.asked ↔
      (∃ error, locator.dnsName participant zone = .error error) ∨
        (locator.service = none ∨ options.useNaptr = false) ∨
        (∃ text, options.primaryText = some text ∧ Endpoint.ofText? text = none) ∨
        (locator.useCache = true ∧ ∃ name service url,
          locator.dnsName participant zone = .ok name ∧ locator.service = some service ∧
            memory.cache.get? (Cache.key name service options.primaryText) = some url)) ∧
    (∀ error, locator.dnsName participant zone = .error error → call = (.error error, memory)) ∧
    (locator.service = none ∨ options.useNaptr = false →
      call = (locator.dnsName participant zone, memory)) ∧
    (∀ name service text, locator.dnsName participant zone = .ok name →
      locator.target? options = some service → options.primaryText = some text →
      Endpoint.ofText? text = none →
      call = (.error (.invalidInput (.invalidServer text)), memory)) ∧
    (∀ name service servers url, locator.Asks participant zone options name service servers →
      locator.useCache = true →
      memory.cache.get? (Cache.key name service options.primaryText) = some url →
      call = (.ok url, memory)) ∧
    (call.2.asked ≠ memory.asked → ∃ name servers count,
      locator.dnsName participant zone = .ok name ∧
        0 < count ∧ count ≤ locator.policy.maxAttempts ∧
        call.2.asked = memory.asked ++ List.replicate count { domain := name, servers }) ∧
    (∀ error, call.1 = .error (.resolution error) →
      locator.dnsName participant zone = .ok error.domain) ∧
    ∀ error, call.1 = .error error → call.2.cache = memory.cache := by
  refine ⟨asked_eq_iff_settled.trans exists_settled_iff, fun error named => ?_, fun none => ?_,
    fun name service text named target given unread => ?_,
    fun name service servers url asks enabled hit => ?_, fun other => ?_,
    fun error failed => dnsName_of_resolution_error failed, fun error failed => cache_of_error failed⟩
  · exact resolveWith_of_ends (.rejected named)
  · exact resolveWith_of_noTarget (target?_eq_none_iff.2 none)
  · have listed : locator.serverList options.primaryText =
        .error (.invalidInput (.invalidServer text)) :=
      serverList_eq_error_iff.2 ⟨text, given, unread, rfl⟩
    exact resolveWith_of_ends (.noServer named target listed)
  · exact resolveWith_of_settled (.known asks enabled hit)
  · rcases settled_or_misses locator participant zone options memory.cache with
      ⟨result, settled⟩ | ⟨name, service, servers, misses⟩
    · exact absurd (congrArg (fun call => call.2.asked) (resolveWith_of_settled settled)) other
    · obtain ⟨count, positive, most, asked⟩ := exists_asked_of_misses network misses
      exact ⟨name, servers, count, misses.asks.named, positive, most, asked⟩

end ServiceLocation.Locator
