import ServiceLocation.Proofs.Locator.History
import ServiceLocation.Proofs.Locator.Key
import ServiceLocation.Proofs.Naptr.Retry

/-!
**The cache shows in no answer.**

On a network that answers at once and always the same, a name has one verdict for each service and
list of servers (`Naptr.resolve_fixed`). As long as the network and the servers stay,

* `Session.Faithful`: whatever the cache knows for a key that can be asked for is the verdict;
* `Session.faithful_next`: every step keeps it so, since a key tells what it was made of;
* `Session.call_eq_of_faithful`: so a call answers what it would answer without the cache;
* `Session.cache_transparent`: **every call of every run answers what it would answer without the
  cache**.
-/

namespace ServiceLocation

open ServiceLocation.Address ServiceLocation.Naptr

/-! ### Verdicts -/

/-- What a name is resolved to by fixed answers. -/
def Naptr.verdict (answer : Query → Outcome) (query : Query) (service : String) :
    Except ResolutionError String :=
  ((answer query).mapError (transportError query.domain)).bind (choose query.domain service)

/-- **Fixed answers leave nothing to the policy and to what was asked before.** -/
theorem Naptr.resolve_fixed (policy : RetryPolicy) (answer : Query → Outcome) (query : Query)
    (service : String) (asked : List Query) :
    (Naptr.resolve policy (.fixed answer) query service asked).1 = verdict answer query service := by
  rw [resolve_fst, ask_fixed, verdict]

/-! ### Steps that change neither the network nor the servers -/

/-- The change leaves the servers as they are. -/
def Setting.KeepsServers : Setting → Prop
  | .servers _ => False
  | .addServer _ => False
  | _ => True

/-- The step leaves the network and the servers as they are. -/
def Session.Step.KeepsSource : Step → Prop
  | .change setting => setting.KeepsServers
  | .connect _ => False
  | _ => True

/-- A change that leaves the servers as they are is not refused. -/
theorem Setting.apply_of_keepsServers {setting : Setting} (kept : setting.KeepsServers)
    (locator : Locator) : ∃ changed, setting.apply locator = .ok changed ∧
      changed.servers = locator.servers := by
  cases setting with
  | servers new => exact kept.elim
  | addServer text => exact kept.elim
  | _ => exact ⟨_, rfl, rfl⟩

/-- The list of a call depends on no setting but the servers. -/
theorem Locator.serverList_congr {locator locator' : Locator}
    (same : locator.servers = locator'.servers) (primary : Option String) :
    locator.serverList primary = locator'.serverList primary := by
  unfold serverList
  rw [same]

namespace Session

/-- A step that keeps the network and the servers is not refused. -/
theorem next_of_keepsSource {step : Step} (kept : step.KeepsSource) (session : Session) :
    ∃ after, session.next step = .ok after ∧ after.network = session.network ∧
      after.locator.servers = session.locator.servers := by
  cases step with
  | locate participant zone options => exact ⟨_, rfl, rfl, rfl⟩
  | clear => exact ⟨_, rfl, rfl, rfl⟩
  | change setting =>
    obtain ⟨changed, applied, same⟩ := Setting.apply_of_keepsServers kept session.locator
    exact ⟨{ session with locator := changed }, by rw [next, applied]; rfl, rfl, same⟩
  | connect network => exact kept.elim

/-! ### What the cache knows -/

/-- The network and the servers are those given, and whatever the cache knows for a key that can be
asked for is the verdict. -/
structure Faithful (custom : List Endpoint) (answer : Query → Outcome) (session : Session) :
    Prop where
  network : session.network = .fixed answer
  servers : session.locator.servers = custom
  -- No setting but the servers is mentioned, so a change of the others keeps this.
  known : ∀ {name service : String} {options : ResolveOptions} {servers : List Endpoint}
    {value : String}, '|' ∉ name.toList →
    session.locator.serverList options.primaryText = .ok servers →
    session.memory.cache.get? (Cache.key name service options.primaryText) = some value →
    verdict answer { domain := name, servers } service = .ok value

variable {custom : List Endpoint} {answer : Query → Outcome} {session : Session}

theorem faithful_opened (locator : Locator) (answer : Query → Outcome) :
    Faithful locator.servers answer (opened locator (.fixed answer)) where
  network := rfl
  servers := rfl
  known _ _ known := by cases (Cache.get?_empty _).symm.trans known

/-- **What is stored is the verdict of every request that has its key.** -/
theorem Faithful.verdict_of_stores (faithful : session.Faithful custom answer) {step : Step}
    {name service value : String} {options : ResolveOptions} {servers : List Endpoint}
    (noBar : '|' ∉ name.toList)
    (listed : session.locator.serverList options.primaryText = .ok servers)
    (stored : session.Stores step (Cache.key name service options.primaryText) value) :
    verdict answer { domain := name, servers } service = .ok value := by
  obtain ⟨_, _, options', name', service', servers', _, asks, same, resolved⟩ := stored.resolved
  obtain ⟨rfl, rfl, texts⟩ := Cache.key_inj noBar (Locator.bar_notMem_of_dnsName asks.named)
    (Locator.bar_notMem_of_serverList listed) (Locator.bar_notMem_of_serverList asks.listed) same
  have listed' := asks.listed
  rw [← ResolveOptions.primaryText_eq_of_getD texts, listed] at listed'
  rw [faithful.network, resolve_fixed, ← Except.ok.inj listed'] at resolved
  exact resolved

/-- **A step keeps the cache faithful**, and is not refused. -/
theorem faithful_next (faithful : session.Faithful custom answer) {step : Step}
    (kept : step.KeepsSource) :
    ∃ after, session.next step = .ok after ∧ after.Faithful custom answer := by
  obtain ⟨after, taken, network, servers⟩ := next_of_keepsSource kept session
  refine ⟨after, taken, network.trans faithful.network, servers.trans faithful.servers, ?_⟩
  intro name service options list value noBar listed known
  rw [Locator.serverList_congr servers] at listed
  rcases (get?_next taken _ value).1 known with ⟨_, before⟩ | stored
  · exact faithful.known noBar listed before
  · exact faithful.verdict_of_stores noBar listed stored

theorem faithful_run {steps : List Step} (faithful : session.Faithful custom answer)
    (kept : ∀ step ∈ steps, step.KeepsSource) :
    ∃ after, session.run steps = .ok after ∧ after.Faithful custom answer := by
  induction steps generalizing session with
  | nil => exact ⟨session, rfl, faithful⟩
  | cons step rest ih =>
    obtain ⟨between, taken, still⟩ := faithful_next faithful (kept step List.mem_cons_self)
    obtain ⟨after, reached, final⟩ :=
      ih still fun later member => kept later (List.mem_cons_of_mem _ member)
    exact ⟨after, run_cons_iff.2 ⟨between, taken, reached⟩, final⟩

/-! ### What calls answer -/

/-- A session with the same settings whose cache is empty, and off. -/
def uncached (session : Session) : Session :=
  opened { session.locator with useCache := false } session.network

/-- **A call on a faithful cache answers what it would answer without the cache.** -/
theorem call_eq_of_faithful (faithful : session.Faithful custom answer)
    (participant : Participant) (zone : String) (options : ResolveOptions) :
    (session.call participant zone options).1 =
      (session.uncached.call participant zone options).1 := by
  by_cases asking : ∃ name service servers,
      session.locator.Asks participant zone options name service servers
  · obtain ⟨name, service, servers, asks⟩ := asking
    have asks' : session.uncached.locator.Asks participant zone options name service servers :=
      ⟨asks.named, asks.target, asks.listed⟩
    have without : (session.uncached.call participant zone options).1 =
        (verdict answer { domain := name, servers } service).mapError .resolution := by
      rw [call, Locator.resolveWith_of_asks asks', Locator.lookUp_of_miss fun enabled => ?_]
      · rw [← resolve_fixed, ← faithful.network]
        rfl
      · cases enabled
    rw [without, call, Locator.resolveWith_of_asks asks]
    by_cases hit : session.locator.useCache = true ∧
        ∃ value, session.memory.cache.get? (Cache.key name service options.primaryText) = some value
    · obtain ⟨enabled, value, known⟩ := hit
      have noBar := Locator.bar_notMem_of_dnsName asks.named
      rw [Locator.lookUp_of_hit enabled known, faithful.known noBar asks.listed known]
      rfl
    · rw [Locator.lookUp_of_miss fun enabled => ?_, faithful.network, resolve_fixed]
      exact Option.eq_none_iff_forall_ne_some.2 fun value known => hit ⟨enabled, value, known⟩
  · obtain ⟨result, settled⟩ := Locator.resolveWith_of_not_asks asking
    have cached : session.call participant zone options = (result, session.memory) :=
      settled session.locator.useCache session.network session.memory
    have without : session.uncached.call participant zone options = (result, .empty) :=
      settled false session.network .empty
    rw [cached, without]

/-- **The cache shows in no answer.** On a network that answers at once and always the same, after
every run of calls, clearings and changes of settings other than the servers, every call answers
what it would answer with the same settings if nothing were remembered. -/
theorem cache_transparent (locator : Locator) (answer : Query → Outcome) (steps : List Step)
    (kept : ∀ step ∈ steps, step.KeepsSource) :
    ∃ session, (opened locator (.fixed answer)).run steps = .ok session ∧
      ∀ participant zone options, (session.call participant zone options).1 =
        ((opened { session.locator with useCache := false } (.fixed answer)).call participant zone
          options).1 := by
  obtain ⟨session, reached, faithful⟩ := faithful_run (faithful_opened locator answer) kept
  refine ⟨session, reached, fun participant zone options => ?_⟩
  rw [call_eq_of_faithful faithful, uncached, faithful.network]

/-- The options of a call that asks one server. -/
def nearServer : ResolveOptions := { useNaptr := true, primary := some "::1" }

/-- A call whose result is forgotten, and calls under a service that holds a bar: one that asks a server, the
same again, one for a name that does not exist, and one while the cache is off. -/
def callsWithBars : List Step :=
  [.locate (.ofValue "abc") "example.org" .standard, .clear, .change (.service (some "a|b")),
   .locate (.ofValue "abc") "example.org" nearServer, .locate (.ofValue "abc") "example.org" nearServer,
   .change (.labelPrefix "p"), .locate (.ofValue "abc") "example.org" nearServer,
   .change (.labelPrefix ""), .change (.useCache false),
   .locate (.ofValue "abc") "example.org" .standard, .change (.useCache true)]

/-- The next call is answered by the cache, under a key with three bars, as it would be by the network. -/
theorem cache_transparent_of_callsWithBars :
    ∃ session, (opened (.ofPreset .esens) registry).run callsWithBars = .ok session ∧
      session.locator.service = some "a|b" ∧
      session.call (.ofValue "abc") "example.org" nearServer =
        (.ok (Locator.hostUrl registeredName), session.memory) ∧
      ∀ participant zone options, (session.call participant zone options).1 =
        ((opened { session.locator with useCache := false } registry).call participant zone options).1 := by
  have kept : ∀ step ∈ callsWithBars, step.KeepsSource := by
    simp [callsWithBars, Step.KeepsSource, Setting.KeepsServers]
  obtain ⟨session, reached, transparent⟩ := cache_transparent (.ofPreset .esens) _ callsWithBars kept
  let barred : Locator := { Locator.ofPreset .esens with service := some "a|b" }
  obtain ⟨final, same, settings⟩ : ∃ final,
      (opened (.ofPreset .esens) registry).run callsWithBars = .ok final ∧ final.locator = barred :=
    ⟨_, rfl, rfl⟩
  obtain rfl := Except.ok.inj (reached.symm.trans same)
  obtain ⟨before, there, locator, network, empty⟩ : ∃ before,
      (opened (.ofPreset .esens) registry).run (callsWithBars.take 3) = .ok before ∧
        before.locator = barred ∧ before.network = registry ∧ before.memory.cache = .empty :=
    ⟨_, rfl, rfl, rfl, rfl⟩
  have asks : barred.Asks (.ofValue "abc") "example.org" nearServer registeredName "a|b"
      [.v6 ⟨#v[0, 0, 0, 0, 0, 0, 0, 1]⟩ 53 0] :=
    ⟨dnsName_abc, rfl, by decide +kernel⟩
  have stored : before.Stores (.locate (.ofValue "abc") "example.org" nearServer)
      (Cache.key registeredName "a|b" nearServer.primaryText) (Locator.hostUrl registeredName) := by
    refine (stores_locate_iff (locator ▸ asks)).2 ⟨locator ▸ rfl, rfl, ?_, ?_⟩
    · rw [empty]
      exact Cache.get?_empty _
    · rw [network]
      exact resolve_registry _ _ _ (.inr rfl)
  have known := (get?_iff_storedSince reached _ _).2
    ⟨callsWithBars.take 3, _, callsWithBars.drop 4, before, rfl, by simp [callsWithBars], there, stored⟩
  exact ⟨session, reached, settings ▸ rfl,
    call_of_known (settings ▸ rfl) (settings ▸ asks) known, transparent⟩

end Session

end ServiceLocation
