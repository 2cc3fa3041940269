import ServiceLocation.Config
import ServiceLocation.Proofs.Locator.ServerText
import ServiceLocation.Proofs.Locator.Settings
import ServiceLocation.Proofs.Span

/-!
**A configuration changes its preset where it says so, and nowhere else.**

* `Config.nodup_settings`: no two of its changes are of the same part;
* `Config.withSettings_settings`: what all of them come to;
* `Config.exists_locator_error_iff`: when there is no locator;
* `Config.locator_exact`: **when there is a locator, and which one**. It is used like the preset after
  the same changes, whatever their order.
-/

namespace ServiceLocation.Config

variable {config : Config} {servers : List Address.Endpoint}

/-- **No two changes of a configuration are of the same part.** -/
theorem nodup_settings : ((config.settings servers).map Setting.part).Nodup := by
  unfold settings
  cases config.lowercase <;> cases config.addScheme <;> cases config.useCache <;>
    simp [Setting.part]

/-- What the changes of a configuration come to. -/
theorem withSettings_settings (preset : Locator) :
    preset.withSettings (config.settings servers) =
      .ok { preset with
            lowercase := config.lowercase.getD preset.lowercase
            addScheme := config.addScheme.getD preset.addScheme
            useCache := config.useCache.getD preset.useCache
            labelPrefix := config.labelPrefix
            servers
            policy := config.policy } := by
  unfold settings
  cases config.lowercase <;> cases config.addScheme <;> cases config.useCache <;> rfl

/-- The time that a server is given is that of the configuration, which is never too long. -/
theorem nanos_queryTimeout (config : Config) :
    config.policy.queryTimeout.nanos = config.queryTimeoutMillis.toNat * 1000000 := by
  have below : config.queryTimeoutMillis.toNat < UInt64.size := config.queryTimeoutMillis.toNat_lt
  rw [policy, Span.ofMillis, Span.nanos_ofNanos, Nat.min_eq_left]
  calc config.queryTimeoutMillis.toNat * 1000000
      ≤ UInt64.size * 1000000 := Nat.mul_le_mul_right _ (Nat.le_of_lt below)
    _ ≤ longestNanos := by decide

/-- When settings for repetition are the configuration's. -/
theorem eq_policy_iff {policy : RetryPolicy} :
    policy = config.policy ↔
      policy.queryTimeout.nanos = config.queryTimeoutMillis.toNat * 1000000 ∧
        policy.maxTryAgain = config.maxTryAgain := by
  constructor
  · rintro rfl
    exact ⟨config.nanos_queryTimeout, rfl⟩
  · rintro ⟨nanos, maxTryAgain⟩
    have timeout : policy.queryTimeout = config.policy.queryTimeout :=
      Span.eq_of_nanos (nanos.trans config.nanos_queryTimeout.symm)
    cases policy
    cases timeout
    cases maxTryAgain
    rfl

theorem locator_eq_ok_iff {locator : Locator} :
    config.locator = .ok locator ↔
      Locator.readServers config.servers = .ok locator.servers ∧
        (Locator.ofPreset config.preset).withSettings (config.settings locator.servers) =
          .ok locator := by
  rw [Config.locator, bind_eq_ok_iff]
  constructor
  · rintro ⟨servers, read, changed⟩
    have same : servers = locator.servers := by
      rw [withSettings_settings] at changed
      rw [← Except.ok.inj changed]
    rw [← same]
    exact ⟨read, changed⟩
  · rintro ⟨read, changed⟩
    exact ⟨locator.servers, read, changed⟩

theorem locator_eq_error_iff {error : LocationError} :
    config.locator = .error error ↔ Locator.readServers config.servers = .error error := by
  rw [Config.locator, bind_eq_error_iff]
  refine or_iff_left ?_
  rintro ⟨servers, _, failed⟩
  rw [withSettings_settings] at failed
  cases failed

/-- A configuration has no locator exactly if one of its servers is no address. -/
theorem exists_locator_error_iff :
    (∃ error, config.locator = .error error) ↔
      ∃ text ∈ config.servers, Address.Endpoint.ofText? text = none := by
  constructor
  · rintro ⟨error, failed⟩
    obtain ⟨before, text, after, split, _, refused⟩ :=
      mapM_eq_error_iff.1 (locator_eq_error_iff.1 failed)
    exact ⟨text, split ▸ List.mem_append_right _ List.mem_cons_self,
      (Locator.readServer_eq_error_iff.1 refused).1⟩
  · rintro ⟨text, member, refused⟩
    cases read : Locator.readServers config.servers with
    | error error => exact ⟨error, locator_eq_error_iff.2 read⟩
    | ok servers =>
      obtain ⟨server, accepted⟩ := exists_of_mapM read member
      cases (Locator.readServer_eq_ok_iff.1 accepted).symm.trans refused

/-- **When a configuration has a locator, and which one.** There is none exactly if one of its servers is
no address, and then the error is that of the first. Else the service is that of the preset, each of the
three flags is the configuration's own or else that of the preset, and all other settings are the
configuration's own: the servers one by one in their order, repeated ones included. In use, and nothing
remembered yet, it is the preset in use after the same changes in any order. -/
theorem locator_exact (config : Config) :
    let preset := Locator.ofPreset config.preset
    ((∃ error, config.locator = .error error) ↔
      ∃ text ∈ config.servers, Address.Endpoint.ofText? text = none) ∧
    (∀ error, config.locator = .error error ↔
      ∃ before text after, config.servers = before ++ text :: after ∧
        (∀ earlier ∈ before, ∃ server, Locator.readServer earlier = .ok server) ∧
        Locator.readServer text = .error error) ∧
    (∀ locator : Locator, config.locator = .ok locator ↔
      locator.service = preset.service ∧
      locator.lowercase = config.lowercase.getD preset.lowercase ∧
      locator.addScheme = config.addScheme.getD preset.addScheme ∧
      locator.useCache = config.useCache.getD preset.useCache ∧
      locator.labelPrefix = config.labelPrefix ∧
      List.Forall₂ (fun text server => Locator.readServer text = .ok server) config.servers
        locator.servers ∧
      locator.policy.queryTimeout.nanos = config.queryTimeoutMillis.toNat * 1000000 ∧
      locator.policy.maxTryAgain = config.maxTryAgain) ∧
    ∀ (locator : Locator) (network : Naptr.Network), config.locator = .ok locator →
      (Session.opened locator network).memory = .empty ∧
      ∀ settings : List Setting, settings.Perm (config.settings locator.servers) →
        (Session.opened preset network).run (settings.map .change) =
          .ok (Session.opened locator network) ∧
        ∀ steps, (Session.opened preset network).run (settings.map .change ++ steps) =
          (Session.opened locator network).run steps := by
  intro preset
  refine ⟨exists_locator_error_iff, fun error => locator_eq_error_iff.trans mapM_eq_error_iff,
    fun locator => ⟨?_, ?_⟩, fun locator network is => ⟨rfl, ?_⟩⟩
  · intro is
    obtain ⟨read, changed⟩ := locator_eq_ok_iff.1 is
    rw [withSettings_settings] at changed
    have whole := Except.ok.inj changed
    have policy : locator.policy = config.policy := by rw [← whole]
    obtain ⟨queryTimeout, maxTryAgain⟩ := eq_policy_iff.1 policy
    exact ⟨by rw [← whole], by rw [← whole], by rw [← whole], by rw [← whole], by rw [← whole],
      mapM_eq_ok_iff.1 read, queryTimeout, maxTryAgain⟩
  · rintro ⟨service, lowercase, addScheme, useCache, labelPrefix, servers, policy⟩
    rw [locator_eq_ok_iff, withSettings_settings]
    refine ⟨mapM_eq_ok_iff.2 servers, ?_⟩
    rw [← service, ← lowercase, ← addScheme, ← useCache, ← labelPrefix, ← eq_policy_iff.2 policy]
  · intro settings perm
    -- The changes are of different parts, so that those in the configuration's order come to the same.
    have changed := (locator_eq_ok_iff.1 is).2
    rw [Locator.withSettings_perm perm.symm nodup_settings] at changed
    exact ⟨Session.run_change changed, Session.run_change_append changed⟩

/-- A preset without a cache, of which two flags are overridden, with a server that is given twice. Its
flags may be set last, and in another order. -/
theorem locator_exact_of_bpc :
    let config : Config := { standard with
      preset := .bpcSmp2, lowercase := some false, useCache := some true, labelPrefix := "B-"
      servers := ["192.0.2.53", " 192.0.2.54:5353", "192.0.2.53:53"] }
    let first : Address.Endpoint := .v4 ⟨192, 0, 2, 53⟩ 53
    let second : Address.Endpoint := .v4 ⟨192, 0, 2, 54⟩ 5353
    let locator : Locator := { Locator.ofPreset .bpcSmp2 with
      lowercase := false, useCache := true, labelPrefix := "B-", policy := config.policy
      servers := [first, second, first] }
    config.locator = .ok locator ∧
      (Session.opened (Locator.ofPreset .bpcSmp2) .empty).run
          [.change (.servers [first, second, first]), .change (.useCache true),
            .change (.policy config.policy), .change (.labelPrefix "B-"),
            .change (.lowercase false)] =
        .ok (Session.opened locator .empty) := by
  intro config first second locator
  obtain ⟨_, _, locator_iff, used⟩ := locator_exact config
  have read : config.locator = .ok locator := (locator_iff locator).2
    ⟨rfl, rfl, rfl, rfl, rfl, .cons rfl (.cons rfl (.cons rfl .nil)), config.nanos_queryTimeout, rfl⟩
  exact ⟨read, ((used locator .empty read).2
    [.servers [first, second, first], .useCache true, .policy config.policy, .labelPrefix "B-",
      .lowercase false] (by decide)).1⟩

end ServiceLocation.Config
