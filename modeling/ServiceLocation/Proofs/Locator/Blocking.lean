import ServiceLocation.Proofs.Locator.Queries
import ServiceLocation.Proofs.Locator.Transparency

/-!
**Calls that wait.**

Where nothing may block, a call that waits is refused by its options and the locator's service alone,
before its name, its server and the cache are looked at.

* `refused_iff`: **a call that waits is refused exactly if it has a service to ask for**;
* `resolveBlocking_exact`: so all calls are that would make a query, and some that would not;
* `resolveBlocking_of_known`: **a call is refused though the cache knows its answer.**
-/

namespace ServiceLocation.Locator

open ServiceLocation.Address ServiceLocation.Naptr

section

variable {locator : Locator} {network : Network} {participant : Participant} {zone : String}
  {options : ResolveOptions} {memory : Memory}

theorem resolveBlocking_of_noTarget (target : locator.target? options = none) (mayBlock : Bool) :
    locator.resolveBlocking mayBlock network participant zone options memory =
      locator.resolveWith network participant zone options memory := by
  rw [resolveWith_of_noTarget target, resolveBlocking, target]
  rfl

theorem resolveBlocking_true : locator.resolveBlocking true network participant zone options memory =
    locator.resolveWith network participant zone options memory := by
  cases target : locator.target? options with
  | none => exact resolveBlocking_of_noTarget target true
  | some service =>
    rw [resolveBlocking, target]
    rfl

theorem resolveBlocking_of_target (target : locator.target? options ≠ none) :
    locator.resolveBlocking false network participant zone options memory =
      (.error (.runtime .blockingInsideRuntime), memory) := by
  obtain ⟨service, has⟩ := Option.ne_none_iff_exists'.1 target
  rw [resolveBlocking, has]
  rfl

/-- **Where nothing may block, a call is refused exactly if it has a service to ask for.** -/
theorem refused_iff : (∃ fault,
    (locator.resolveBlocking false network participant zone options memory).1 =
      .error (.runtime fault)) ↔ locator.target? options ≠ none := by
  constructor
  · rintro ⟨fault, refused⟩ target
    -- A call that does not wait is never refused.
    rw [resolveBlocking_of_noTarget target] at refused
    exact resolveWith_ne_runtime fault refused
  · intro target
    exact ⟨_, congrArg Prod.fst (resolveBlocking_of_target target)⟩

end

/-- **What a call that waits answers.** Where it may block, it answers as if it did not wait, which is
never a refusal. Where nothing may block, it is refused exactly if it has a service to ask for, and then
it changes nothing; otherwise it answers as if it did not wait. So every call is refused that would make
a query. One that would make none is refused as well if it has a service to ask for and its name is
rejected, the server that it asks first is no address or the cache knows its key, and only then. -/
theorem resolveBlocking_exact (locator : Locator) (network : Network) (participant : Participant)
    (zone : String) (options : ResolveOptions) (memory : Memory) :
    let call := locator.resolveWith network participant zone options memory
    let waited := locator.resolveBlocking false network participant zone options memory
    let refused := ∃ fault, waited.1 = .error (.runtime fault)
    locator.resolveBlocking true network participant zone options memory = call ∧
    (∀ fault, call.1 ≠ .error (.runtime fault)) ∧
    (refused ↔ locator.target? options ≠ none) ∧
    (refused → waited = (.error (.runtime .blockingInsideRuntime), memory)) ∧
    (¬ refused → waited = call) ∧
    (call.2.asked ≠ memory.asked → refused) ∧
    (refused ∧ call.2.asked = memory.asked ↔ locator.target? options ≠ none ∧
      ((∃ error, locator.dnsName participant zone = .error error) ∨
        (∃ text, options.primaryText = some text ∧ Endpoint.ofText? text = none) ∨
        (locator.useCache = true ∧ ∃ name service url,
          locator.dnsName participant zone = .ok name ∧ locator.service = some service ∧
            memory.cache.get? (Cache.key name service options.primaryText) = some url))) := by
  intro call waited refused
  have byTarget : refused ↔ locator.target? options ≠ none := refused_iff
  have bySettling : call.2.asked = memory.asked ↔ _ := asked_eq_iff_settled.trans exists_settled_iff
  rw [← target?_eq_none_iff] at bySettling
  refine ⟨resolveBlocking_true, resolveWith_ne_runtime, byTarget, fun is => ?_, fun isNot => ?_,
    fun other => ?_, ?_⟩
  · exact resolveBlocking_of_target (byTarget.1 is)
  · exact resolveBlocking_of_noTarget (not_not.1 (mt byTarget.2 isNot)) false
  · exact byTarget.2 fun none => other (bySettling.2 (.inr (.inl none)))
  · rw [byTarget, bySettling]
    constructor
    · rintro ⟨target, rejected | none | settled⟩
      · exact ⟨target, .inl rejected⟩
      · exact absurd none target
      · exact ⟨target, .inr settled⟩
    · rintro ⟨target, rejected | settled⟩
      · exact ⟨target, .inl rejected⟩
      · exact ⟨target, .inr (.inr settled)⟩

/-! ### A call that is made again -/

/-- What a call is resolved to is known when the call is made again. -/
theorem exists_known_of_resolve {locator : Locator} {network : Network} {participant : Participant}
    {zone name service url : String} {options : ResolveOptions} {servers : List Endpoint}
    (enabled : locator.useCache = true)
    (asks : locator.Asks participant zone options name service servers)
    (resolved : (Naptr.resolve locator.policy network { domain := name, servers } service []).1 =
      .ok url) :
    ∃ session, (Session.opened locator network).run [.locate participant zone options] =
        .ok session ∧ session.locator = locator ∧
      session.call participant zone options = (.ok url, session.memory) := by
  let first := Session.opened locator network
  let second := { first with memory := (first.call participant zone options).2 }
  have taken : first.next (.locate participant zone options) = .ok second := rfl
  have stored : first.Stores (.locate participant zone options)
      (Cache.key name service options.primaryText) url :=
    (Session.stores_locate_iff asks).2 ⟨enabled, rfl, Cache.get?_empty _, resolved⟩
  have known := (Session.get?_next taken _ url).2 (.inr stored)
  exact ⟨second, Session.run_cons_iff.2 ⟨second, taken, rfl⟩, rfl,
    Session.call_of_known enabled asks known⟩

/-- **A call is refused though the cache knows its answer**, so that it would make no query. -/
theorem resolveBlocking_of_known : ∃ session url,
    (Session.opened (.ofPreset .esens) registry).run
        [.locate (.ofValue "abc") "example.org" .standard] = .ok session ∧
      session.call (.ofValue "abc") "example.org" .standard = (.ok url, session.memory) ∧
      session.locator.resolveBlocking false session.network (.ofValue "abc") "example.org" .standard
        session.memory = (.error (.runtime .blockingInsideRuntime), session.memory) := by
  have asks : (Locator.ofPreset .esens).Asks (.ofValue "abc") "example.org" .standard registeredName
      "Meta:SMP" [] := ⟨dnsName_abc, rfl, rfl⟩
  obtain ⟨session, reached, same, known⟩ :=
    exists_known_of_resolve rfl asks (resolve_registry .standard [] [] (.inl rfl))
  have target : session.locator.target? .standard ≠ none := by
    rw [same]
    decide
  exact ⟨session, _, reached, known, resolveBlocking_of_target target⟩

end ServiceLocation.Locator
