import ServiceLocation.Locator.Session
import ServiceLocation.Proofs.Result

/-!
**What a call and a run do.**

* `Locator.Asks`, `Locator.Ends`: a call gets as far as asking, or it ends before and is answered by the
  locator alone (`Locator.resolveWith_of_ends`);
* `Locator.lookUp_of_hit`, `Locator.lookUp_of_miss`: what is answered from the cache, and what from
  the network;
* `Locator.get?_lookUp`: **the one change to the cache that a call can make**;
* `Session.run_append_iff`: a run in two parts.
-/

namespace ServiceLocation

open ServiceLocation.Address ServiceLocation.Naptr

theorem Cache.mem_entries_iff {cache : Cache} {key value : String} :
    (key, value) ∈ cache.entries ↔ cache.get? key = some value := by
  rw [entries, get?, Std.TreeMap.mem_toList_iff_getElem?_eq_some]

namespace Locator

/-! ### Calls -/

/-- A call gets as far as asking for the service of a name, first the cache and then servers. -/
structure Asks (locator : Locator) (participant : Participant) (zone : String)
    (options : ResolveOptions) (name service : String) (servers : List Endpoint) : Prop where
  named : locator.dnsName participant zone = .ok name
  target : locator.target? options = some service
  listed : locator.serverList options.primaryText = .ok servers

section Calls

variable {locator : Locator} {network : Network} {participant : Participant} {zone : String}
  {options : ResolveOptions} {memory : Memory} {name service key : String}
  {servers : List Endpoint}

theorem resolveWith_of_asks (asks : locator.Asks participant zone options name service servers) :
    locator.resolveWith network participant zone options memory =
      locator.lookUp network name service (Cache.key name service options.primaryText) servers
        memory := by
  simp only [resolveWith, asks.named, asks.target, asks.listed]

/-- What a call asks for is told by the call. -/
theorem Asks.unique {name' service' : String} {servers' : List Endpoint}
    (asks : locator.Asks participant zone options name service servers)
    (asks' : locator.Asks participant zone options name' service' servers') :
    name = name' ∧ service = service' ∧ servers = servers' :=
  ⟨Except.ok.inj (asks.named.symm.trans asks'.named),
    Option.some.inj (asks.target.symm.trans asks'.target),
    Except.ok.inj (asks.listed.symm.trans asks'.listed)⟩

/-- What a call answers that ends before it asks. Each way is open only where those before it are not. -/
inductive Ends (locator : Locator) (participant : Participant) (zone : String)
    (options : ResolveOptions) : Except LocationError String → Prop where
  | rejected {error : LocationError} (named : locator.dnsName participant zone = .error error) :
    Ends locator participant zone options (.error error)
  | noTarget {name : String} (named : locator.dnsName participant zone = .ok name)
    (target : locator.target? options = none) : Ends locator participant zone options (.ok name)
  | noServer {name service : String} {error : LocationError}
    (named : locator.dnsName participant zone = .ok name)
    (target : locator.target? options = some service)
    (listed : locator.serverList options.primaryText = .error error) :
    Ends locator participant zone options (.error error)

theorem ends_or_asks (locator : Locator) (participant : Participant) (zone : String)
    (options : ResolveOptions) : (∃ result, locator.Ends participant zone options result) ∨
      ∃ name service servers, locator.Asks participant zone options name service servers := by
  cases named : locator.dnsName participant zone with
  | error error => exact .inl ⟨_, .rejected named⟩
  | ok name =>
    cases target : locator.target? options with
    | none => exact .inl ⟨_, .noTarget named target⟩
    | some service =>
      cases listed : locator.serverList options.primaryText with
      | error error => exact .inl ⟨_, .noServer named target listed⟩
      | ok servers => exact .inr ⟨name, service, servers, named, target, listed⟩

/-- How a call ends before it asks does not depend on the use of the cache. -/
theorem Ends.withCache {result : Except LocationError String}
    (ends : locator.Ends participant zone options result) (useCache : Bool) :
    ({ locator with useCache } : Locator).Ends participant zone options result := by
  cases ends with
  | rejected named => exact .rejected named
  | noTarget named target => exact .noTarget named target
  | noServer named target listed => exact .noServer named target listed

/-- A call that ends before it asks is answered without the network and without what is remembered, and
it leaves that as it is. -/
theorem resolveWith_of_ends {result : Except LocationError String}
    (ends : locator.Ends participant zone options result) :
    locator.resolveWith network participant zone options memory = (result, memory) := by
  cases ends with
  | rejected named => simp only [resolveWith, named]
  | noTarget named target => simp only [resolveWith, named, target]
  | noServer named target listed => simp only [resolveWith, named, target, listed]

theorem resolveWith_of_not_asks
    (never : ¬ ∃ name service servers, locator.Asks participant zone options name service servers) :
    ∃ result, ∀ useCache network memory,
      ({ locator with useCache } : Locator).resolveWith network participant zone options memory =
        (result, memory) := by
  obtain ⟨result, ends⟩ := (ends_or_asks locator participant zone options).resolve_right never
  exact ⟨result, fun useCache _ _ => resolveWith_of_ends (ends.withCache useCache)⟩

/-! ### Looking up -/

/-- What the cache knows is answered from it. -/
theorem lookUp_of_hit {value : String} (enabled : locator.useCache = true)
    (hit : memory.cache.get? key = some value) :
    locator.lookUp network name service key servers memory = (.ok value, memory) := by
  simp only [lookUp, enabled, if_true, hit]

/-- What the cache does not know, or may not be asked, is not looked up in it. -/
theorem unknown_of_miss (miss : locator.useCache = true → memory.cache.get? key = none) :
    (if locator.useCache then memory.cache.get? key else none) = none := by
  split
  · exact miss ‹_›
  · rfl

/-- What the cache does not know is answered by the network. -/
theorem lookUp_of_miss (miss : locator.useCache = true → memory.cache.get? key = none) :
    (locator.lookUp network name service key servers memory).1 =
      (Naptr.resolve locator.policy network { domain := name, servers } service
        memory.asked).1.mapError .resolution := by
  unfold lookUp
  rw [unknown_of_miss miss]
  dsimp only
  split <;> rename_i resolved <;> rw [resolved] <;> rfl

/-- The queries of a look-up are those of the resolution. -/
theorem asked_lookUp_of_miss (miss : locator.useCache = true → memory.cache.get? key = none) :
    (locator.lookUp network name service key servers memory).2.asked =
      (Naptr.resolve locator.policy network { domain := name, servers } service
        memory.asked).2 := by
  unfold lookUp
  rw [unknown_of_miss miss]
  dsimp only
  split <;> rfl

/-- **A call adds what the network answers, if it looks there because the cache does not know.** -/
theorem get?_lookUp (other value : String) :
    (locator.lookUp network name service key servers memory).2.cache.get? other = some value ↔
      memory.cache.get? other = some value ∨
        (locator.useCache = true ∧ other = key ∧ memory.cache.get? other = none ∧
          (Naptr.resolve locator.policy network { domain := name, servers } service
            memory.asked).1 = .ok value) := by
  by_cases enabled : locator.useCache = true
  · cases found : memory.cache.get? key with
    | some known =>
      rw [lookUp_of_hit enabled found]
      refine ⟨.inl, ?_⟩
      rintro (known | ⟨_, rfl, miss, _⟩)
      · exact known
      · cases found.symm.trans miss
    | none =>
      simp only [lookUp, enabled, if_true, found]
      cases resolved : (Naptr.resolve locator.policy network { domain := name, servers } service
        memory.asked).1 with
      | error error => simp
      | ok url =>
        dsimp only
        rw [Cache.get?_insert]
        by_cases same : key = other
        · subst same
          simp [found]
        · simp [same, Ne.symm same]
  · simp only [lookUp, enabled]
    cases (Naptr.resolve locator.policy network { domain := name, servers } service
      memory.asked).1 <;> simp

/-- A call that fails leaves the cache as it is, and so does one that may not use it. -/
theorem cache_lookUp_eq
    (unstored : (∃ error, (locator.lookUp network name service key servers memory).1 =
      .error error) ∨ locator.useCache = false) :
    (locator.lookUp network name service key servers memory).2.cache = memory.cache := by
  unfold lookUp at unstored ⊢
  split
  · rfl
  · rename_i unknown
    rw [unknown] at unstored
    dsimp only at unstored ⊢
    split
    · rfl
    · rename_i url resolved
      rw [resolved] at unstored
      rcases unstored with ⟨error, failed⟩ | disabled
      · cases failed
      · simp [disabled]

end Calls

end Locator

namespace Session

/-- A call that does not ask changes nothing that is remembered. -/
theorem memory_call_of_not_asks {session : Session} {participant : Participant} {zone : String}
    {options : ResolveOptions} (never : ¬ ∃ name service servers,
      session.locator.Asks participant zone options name service servers) :
    (session.call participant zone options).2 = session.memory := by
  obtain ⟨result, settled⟩ := Locator.resolveWith_of_not_asks never
  have answered : session.call participant zone options = (result, session.memory) :=
    settled session.locator.useCache session.network session.memory
  rw [answered]

/-! ### Runs -/

theorem run_nil (session : Session) : session.run [] = .ok session := rfl

theorem run_cons_iff {session after : Session} {step : Step} {rest : List Step} :
    session.run (step :: rest) = .ok after ↔
      ∃ between, session.next step = .ok between ∧ between.run rest = .ok after := by
  rw [run, List.foldlM_cons, bind_eq_ok_iff]
  rfl

/-- A run in two parts. -/
theorem run_append_iff {session after : Session} {earlier later : List Step} :
    session.run (earlier ++ later) = .ok after ↔
      ∃ between, session.run earlier = .ok between ∧ between.run later = .ok after := by
  rw [run, List.foldlM_append, bind_eq_ok_iff]
  rfl

theorem run_concat_iff {session after : Session} {steps : List Step} {last : Step} :
    session.run (steps ++ [last]) = .ok after ↔
      ∃ before, session.run steps = .ok before ∧ before.next last = .ok after := by
  rw [run_append_iff]
  simp only [run_cons_iff, run_nil, Except.ok.injEq, exists_eq_right]

end Session

end ServiceLocation
