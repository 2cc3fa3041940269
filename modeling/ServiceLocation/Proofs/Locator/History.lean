import Mathlib.Data.List.Induction
import ServiceLocation.Proofs.Locator.Name
import ServiceLocation.Proofs.Locator.Session
import ServiceLocation.Proofs.Naptr.Retry

/-!
**What the cache holds after a run.**

* `Session.Stores`: a call looks up a key that the cache does not know, and its name is resolved;
* `Session.StoredSince`: a call of a run did so, and the cache was not cleared after it;
* `Session.get?_next`: **a step adds what it stores, and only a clearing takes something away**;
* `Session.get?_iff_storedSince`: so the cache holds what was stored since it was last cleared;
* `Session.cache_history`: the history of the cache in full;
* `resolve_registry`: a network that knows one name, and resolves it under two services.
-/

namespace ServiceLocation

open ServiceLocation.Address ServiceLocation.Naptr

namespace Session

/-! ### One step -/

/-- The step looks up a key that the cache does not know, and the name is resolved to the value. -/
structure Stores (session : Session) (step : Step) (key value : String) : Prop where
  enabled : session.locator.useCache = true
  miss : session.memory.cache.get? key = none
  resolved : ∃ participant zone options name service servers,
    step = .locate participant zone options ∧
    session.locator.Asks participant zone options name service servers ∧
    key = Cache.key name service options.primaryText ∧
    (Naptr.resolve session.locator.policy session.network { domain := name, servers } service
      session.memory.asked).1 = .ok value

/-- What a call stores, it stores under the key it asks for. -/
theorem stores_locate_iff {session : Session} {participant : Participant} {zone : String}
    {options : ResolveOptions} {name service key value : String} {servers : List Endpoint}
    (asks : session.locator.Asks participant zone options name service servers) :
    session.Stores (.locate participant zone options) key value ↔
      session.locator.useCache = true ∧ key = Cache.key name service options.primaryText ∧
        session.memory.cache.get? key = none ∧
        (Naptr.resolve session.locator.policy session.network { domain := name, servers } service
          session.memory.asked).1 = .ok value := by
  constructor
  · rintro ⟨enabled, miss, _, _, _, _, _, _, same, asks', is, resolved⟩
    obtain ⟨rfl, rfl, rfl⟩ := Step.locate.inj same
    obtain ⟨rfl, rfl, rfl⟩ := asks.unique asks'
    exact ⟨enabled, is, miss, resolved⟩
  · rintro ⟨enabled, is, miss, resolved⟩
    exact ⟨enabled, miss, _, _, _, _, _, _, rfl, asks, is, resolved⟩

theorem not_stores_of_ne_locate {session : Session} {step : Step} {key value : String}
    (other : ∀ participant zone options, step ≠ .locate participant zone options) :
    ¬ session.Stores step key value := by
  rintro ⟨_, _, participant, zone, options, _, _, _, same, _⟩
  exact other participant zone options same

theorem not_stores_of_not_asks {session : Session} {participant : Participant} {zone : String}
    {options : ResolveOptions} {key value : String} (never : ¬ ∃ name service servers,
      session.locator.Asks participant zone options name service servers) :
    ¬ session.Stores (.locate participant zone options) key value := by
  rintro ⟨_, _, _, _, _, name, service, servers, same, asks, _⟩
  obtain ⟨rfl, rfl, rfl⟩ := Step.locate.inj same
  exact never ⟨name, service, servers, asks⟩

/-- **A step adds what it stores, and only a clearing takes something away.** -/
theorem get?_next {session after : Session} {step : Step} (taken : session.next step = .ok after)
    (key value : String) : after.memory.cache.get? key = some value ↔
      (step ≠ .clear ∧ session.memory.cache.get? key = some value) ∨
        session.Stores step key value := by
  cases step with
  | locate participant zone options =>
    rw [← Except.ok.inj taken]
    show (session.call participant zone options).2.cache.get? key = some value ↔ _
    by_cases asking : ∃ name service servers,
        session.locator.Asks participant zone options name service servers
    · obtain ⟨name, service, servers, asks⟩ := asking
      rw [call, Locator.resolveWith_of_asks asks, Locator.get?_lookUp, stores_locate_iff asks]
      simp
    · rw [or_iff_left (not_stores_of_not_asks asking), memory_call_of_not_asks asking]
      simp
  | clear =>
    rw [← Except.ok.inj taken, or_iff_left (not_stores_of_ne_locate (by simp))]
    simp
  | change setting =>
    obtain ⟨locator, _, same⟩ := bind_eq_ok_iff.1 taken
    rw [← Except.ok.inj same, or_iff_left (not_stores_of_ne_locate (by simp))]
    simp
  | connect network =>
    rw [← Except.ok.inj taken, or_iff_left (not_stores_of_ne_locate (by simp))]
    simp

/-! ### Runs -/

/-- A step of the run stored the value, and the cache was not cleared after it. -/
def StoredSince (start : Session) (steps : List Step) (key value : String) : Prop :=
  ∃ earlier step rest before, steps = earlier ++ step :: rest ∧ (∀ later ∈ rest, later ≠ .clear) ∧
    start.run earlier = .ok before ∧ before.Stores step key value

theorem storedSince_concat_iff {start before : Session} {steps : List Step} {last : Step}
    {key value : String} (reached : start.run steps = .ok before) :
    start.StoredSince (steps ++ [last]) key value ↔
      (last ≠ .clear ∧ start.StoredSince steps key value) ∨ before.Stores last key value := by
  constructor
  · rintro ⟨earlier, step, rest, between, cut, kept, there, stored⟩
    rcases List.eq_nil_or_concat rest with rfl | ⟨more, final, rfl⟩
    · obtain ⟨rfl, same⟩ := List.append_inj' cut rfl
      obtain ⟨rfl, _⟩ := List.cons.inj same
      rw [Except.ok.inj (reached.symm.trans there)]
      exact .inr stored
    · rw [List.concat_eq_append, ← List.cons_append, ← List.append_assoc] at cut
      obtain ⟨same, isLast⟩ := List.append_inj' cut rfl
      refine .inl ⟨?_, earlier, step, more, between, same, fun later member => ?_, there, stored⟩
      · rw [(List.cons.inj isLast).1]
        exact kept final (by simp)
      · exact kept later (by simp [member])
  · rintro (⟨kept, earlier, step, rest, between, cut, none, there, stored⟩ | stored)
    · refine ⟨earlier, step, rest ++ [last], between, by rw [cut]; simp, ?_, there, stored⟩
      intro later member
      rcases List.mem_append.1 member with inside | isLast
      · exact none later inside
      · rw [List.mem_singleton.1 isLast]
        exact kept
    · exact ⟨steps, last, [], before, rfl, List.forall_mem_nil _, reached, stored⟩

/-- **The cache holds what was stored since it was last cleared.** -/
theorem get?_iff_storedSince {locator : Locator} {network : Network} {steps : List Step}
    {session : Session} (reached : (opened locator network).run steps = .ok session)
    (key value : String) : session.memory.cache.get? key = some value ↔
      (opened locator network).StoredSince steps key value := by
  induction steps using List.reverseRecOn generalizing session with
  | nil =>
    rw [← Except.ok.inj reached]
    refine ⟨fun known => ?_, ?_⟩
    · cases (Cache.get?_empty key).symm.trans known
    · rintro ⟨earlier, step, rest, _, cut, _⟩
      simp at cut
  | append_singleton steps last ih =>
    obtain ⟨before, there, taken⟩ := run_concat_iff.1 reached
    rw [get?_next taken, storedSince_concat_iff there, ih there]

/-- A step of the run stored the value, the cache was not cleared after it, and nothing had been
stored for the key since it was cleared before. -/
def StoredFirst (start : Session) (steps : List Step) (key value : String) : Prop :=
  ∃ earlier step rest before, steps = earlier ++ step :: rest ∧ (∀ later ∈ rest, later ≠ .clear) ∧
    start.run earlier = .ok before ∧ before.Stores step key value ∧
    ∀ other, ¬ start.StoredSince earlier key other

/-- What is stored is stored first, since a key that the cache knows is not resolved again. -/
theorem storedFirst_iff_storedSince {locator : Locator} {network : Network} {steps : List Step}
    {key value : String} : (opened locator network).StoredFirst steps key value ↔
      (opened locator network).StoredSince steps key value := by
  constructor
  · rintro ⟨earlier, step, rest, before, cut, kept, there, stored, _⟩
    exact ⟨earlier, step, rest, before, cut, kept, there, stored⟩
  · rintro ⟨earlier, step, rest, before, cut, kept, there, stored⟩
    refine ⟨earlier, step, rest, before, cut, kept, there, stored, fun other since => ?_⟩
    cases stored.miss.symm.trans ((get?_iff_storedSince there key other).2 since)

theorem isUrl_of_storedSince {start : Session} {steps : List Step} {key value : String}
    (since : start.StoredSince steps key value) : ∃ parsed, Url.parse value.toList = .ok parsed := by
  obtain ⟨_, _, _, before, _, _, _, stored⟩ := since
  obtain ⟨_, _, _, _, _, _, _, _, _, resolved⟩ := stored.resolved
  exact isUrl_of_resolve resolved

/-- An entry stays as it is until the cache is cleared. -/
theorem get?_run {session after : Session} {later : List Step}
    (reached : session.run later = .ok after) (kept : ∀ step ∈ later, step ≠ .clear)
    {key value : String} (known : session.memory.cache.get? key = some value) :
    after.memory.cache.get? key = some value := by
  induction later generalizing session with
  | nil => exact Except.ok.inj reached ▸ known
  | cons step rest ih =>
    obtain ⟨between, taken, behind⟩ := run_cons_iff.1 reached
    refine ih behind (fun later member => kept later (List.mem_cons_of_mem _ member)) ?_
    exact (get?_next taken key value).2 (.inl ⟨kept step List.mem_cons_self, known⟩)

/-- A call for a key that the cache knows is answered from it, without a query. -/
theorem call_of_known {session : Session} {participant : Participant} {zone : String}
    {options : ResolveOptions} {name service value : String} {servers : List Endpoint}
    (enabled : session.locator.useCache = true)
    (asks : session.locator.Asks participant zone options name service servers)
    (known : session.memory.cache.get? (Cache.key name service options.primaryText) = some value) :
    session.call participant zone options = (.ok value, session.memory) := by
  rw [call, Locator.resolveWith_of_asks asks, Locator.lookUp_of_hit enabled known]

/-- A call that fails, that may not use the cache, or that has no service to ask for leaves the
cache as it is. -/
theorem cache_call_eq {session : Session} {participant : Participant} {zone : String}
    {options : ResolveOptions}
    (unstored : (∃ error, (session.call participant zone options).1 = .error error) ∨
      session.locator.useCache = false ∨ session.locator.target? options = none) :
    (session.call participant zone options).2.cache = session.memory.cache := by
  by_cases asking : ∃ name service servers,
      session.locator.Asks participant zone options name service servers
  · obtain ⟨name, service, servers, asks⟩ := asking
    rw [call, Locator.resolveWith_of_asks asks] at unstored ⊢
    refine Locator.cache_lookUp_eq ?_
    rcases unstored with failed | disabled | noTarget
    · exact .inl failed
    · exact .inr disabled
    · cases noTarget.symm.trans asks.target
  · rw [memory_call_of_not_asks asking]

/-- **The history of the cache.** After a run, the cache holds what was stored first for its key
since it was last cleared. An entry stays until the next clearing, whatever is done, and answers
every call for its key that may use the cache, without a query. What is stored is a URL. A call that
fails, that may not use the cache, or that has no service to ask for changes nothing. -/
theorem cache_history {locator : Locator} {network : Network} {steps : List Step}
    {session : Session} (reached : (opened locator network).run steps = .ok session) :
    (∀ key value, (key, value) ∈ session.memory.cache.entries ↔
      (opened locator network).StoredFirst steps key value) ∧
    (∀ key value, (key, value) ∈ session.memory.cache.entries →
      (∃ parsed, Url.parse value.toList = .ok parsed) ∧
      ∀ later after, session.run later = .ok after → (∀ step ∈ later, step ≠ .clear) →
        (∀ other, (key, other) ∈ after.memory.cache.entries ↔ other = value) ∧
        ∀ participant zone options name service servers, after.locator.useCache = true →
          after.locator.Asks participant zone options name service servers →
          key = Cache.key name service options.primaryText →
          after.call participant zone options = (.ok value, after.memory)) ∧
    ∀ participant zone options,
      ((∃ error, (session.call participant zone options).1 = .error error) ∨
        session.locator.useCache = false ∨ session.locator.target? options = none) →
      (session.call participant zone options).2.cache = session.memory.cache := by
  simp only [Cache.mem_entries_iff]
  refine ⟨fun key value => ?_, fun key value known => ⟨?_, fun later after behind kept => ?_⟩,
    fun participant zone options => cache_call_eq⟩
  · rw [get?_iff_storedSince reached, storedFirst_iff_storedSince]
  · exact isUrl_of_storedSince ((get?_iff_storedSince reached key value).1 known)
  · have still := get?_run behind kept known
    refine ⟨fun other => ?_, fun participant zone options name service servers enabled asks is => ?_⟩
    · rw [still, Option.some.injEq, eq_comm]
    · exact call_of_known enabled asks (is ▸ still)

end Session

/-! ### A registry -/

/-- The name of a participant. -/
def registeredName : String := "XJ4BNP4PAHH6UQKBIDPF3LRCEOYAGYNDSYLXVHFUCD7WD4QACWWQ.example.org"

/-- A record that turns every name into the URL of its host. -/
def hostRecord (service : String) : Record := ⟨100, 10, "U", service, "!^!http://!", "."⟩

/-- A network that knows one name, under two services. -/
def registry : Network :=
  .ofNames [(registeredName, .ok [hostRecord "Meta:SMP", hostRecord "a|b"])]

theorem dnsName_abc : (Locator.ofPreset .esens).dnsName (.ofValue "abc") "example.org" =
    .ok registeredName := by
  have same : String.ofList ((Naming.label true "abc").toList ++ '.' :: "example.org".toList) =
      registeredName := by
    decide +kernel
  rw [← same]
  exact Locator.dnsName_of_isVerbatim rfl (by decide) (by decide) (by decide)

/-- The name is resolved under both services, whichever servers are asked. -/
theorem resolve_registry {service : String} (policy : RetryPolicy) (servers : List Endpoint)
    (asked : List Query) (offered : service = "Meta:SMP" ∨ service = "a|b") :
    (Naptr.resolve policy registry { domain := registeredName, servers } service asked).1 =
      .ok (Locator.hostUrl registeredName) := by
  have accepted := (Locator.dnsName_eq_ok_iff.1 dnsName_abc).2.2
  have isUrl := isUrl_iff.2 ⟨_, Locator.parse_of_checkHost (by decide) accepted⟩
  have rewritten : substitute "!^!http://!" registeredName = .ok (Locator.hostUrl registeredName) := by
    decide +kernel
  have usable : usableUrl? registeredName (hostRecord service) = some (Locator.hostUrl registeredName) :=
    usableUrl?_eq_some_iff.2 ⟨show 4 ≤ "!^!http://!".utf8ByteSize by decide, rewritten, isUrl⟩
  have single : [hostRecord "Meta:SMP", hostRecord "a|b"].filter (·.isTerminalFor service) =
      [hostRecord service] := by
    rcases offered with rfl | rfl <;> rfl
  exact resolve_fixed_of_single policy asked rfl single usable

namespace Session

/-- A call, and then a change that turns the cache off. -/
def callThenDisable : List Step :=
  [.locate (.ofValue "abc") "example.org" .standard, .change (.useCache false)]

/-- What the call stored stays, and no further call changes the cache while it is off. When it is turned on
again, on a network that knows no name, it answers the call, and nobody is asked. -/
theorem cache_history_of_callThenDisable :
    let start := opened (.ofPreset .esens) registry
    let key := Cache.key registeredName "Meta:SMP" none
    let url := Locator.hostUrl registeredName
    ∃ session after, start.run callThenDisable = .ok session ∧
      (∀ key value, (key, value) ∈ session.memory.cache.entries ↔
        start.StoredFirst callThenDisable key value) ∧
      (key, url) ∈ session.memory.cache.entries ∧
      (∃ parsed, Url.parse url.toList = .ok parsed) ∧
      (∀ participant zone options,
        (session.call participant zone options).2.cache = session.memory.cache) ∧
      session.run [.connect .empty, .change (.useCache true)] = .ok after ∧
      (∀ other, (key, other) ∈ after.memory.cache.entries ↔ other = url) ∧
      after.call (.ofValue "abc") "example.org" .standard = (.ok url, after.memory) := by
  intro start key url
  obtain ⟨session, reached, off⟩ : ∃ session, start.run callThenDisable = .ok session ∧
      session.locator = { start.locator with useCache := false } := ⟨_, rfl, rfl⟩
  obtain ⟨after, behind, on⟩ : ∃ after,
      session.run [.connect .empty, .change (.useCache true)] = .ok after ∧
        after.locator = { session.locator with useCache := true } := ⟨_, rfl, rfl⟩
  have restored : after.locator = start.locator := by
    rw [on, off]
    rfl
  have asks : start.locator.Asks (.ofValue "abc") "example.org" .standard registeredName "Meta:SMP" [] :=
    ⟨dnsName_abc, rfl, rfl⟩
  have stored : start.Stores (.locate (.ofValue "abc") "example.org" .standard) key url :=
    (stores_locate_iff asks).2
      ⟨rfl, rfl, Cache.get?_empty _, resolve_registry .standard [] [] (.inl rfl)⟩
  have since : start.StoredSince callThenDisable key url :=
    ⟨[], _, [.change (.useCache false)], start, rfl, by simp, rfl, stored⟩
  obtain ⟨entries, lasting, unchanged⟩ := cache_history reached
  have listed := (entries key url).2 (storedFirst_iff_storedSince.2 since)
  obtain ⟨isUrl, stays⟩ := lasting key url listed
  obtain ⟨only, answers⟩ := stays _ after behind (by simp)
  refine ⟨session, after, reached, entries, listed, isUrl, fun participant zone options => ?_, behind, only,
    answers _ _ _ _ _ _ (restored ▸ rfl) (restored ▸ asks) rfl⟩
  exact unchanged participant zone options (.inr (.inl (off ▸ rfl)))

end Session

end ServiceLocation
