import ServiceLocation.Locator.Resolve
import ServiceLocation.Proofs.Locator.Name
import ServiceLocation.Proofs.Locator.ServerText
import ServiceLocation.Proofs.Locator.Session

/-!
**What the key of a resolution tells.**

The name, the service and the server of a key are joined by bars, and nothing keeps a bar out of a
service. But

* `Locator.bar_notMem_of_dnsName`: **a name holds no bar**, since it is the host of a URL;
* `Locator.bar_notMem_of_serverList`: **nor does the text of a server**, since it is an address;
* `Cache.key_inj`: so the first and the last bar of a key are where its parts were joined, and the
  key tells the parts;
* `Locator.key_eq_iff_of_asks`: **no two calls that look up a key share it**, unless they ask for the
  same service of the same name by way of the same server.
-/

namespace ServiceLocation

open ServiceLocation.Address ServiceLocation.Text

/-! ### Keys without bars in their outer parts -/

theorem Cache.toList_key (domain service : String) (server : Option String) :
    (key domain service server).toList =
      domain.toList ++ '|' :: (service.toList ++ '|' :: (server.getD "").toList) := by
  simp [key]

/-- A key tells its parts if only the service may hold bars. -/
theorem Cache.key_inj {domain domain' service service' : String} {server server' : Option String}
    (noBar : '|' ∉ domain.toList) (noBar' : '|' ∉ domain'.toList)
    (behind : '|' ∉ (server.getD "").toList) (behind' : '|' ∉ (server'.getD "").toList)
    (same : key domain service server = key domain' service' server') :
    domain = domain' ∧ service = service' ∧ server.getD "" = server'.getD "" := by
  have texts := congrArg String.toList same
  rw [toList_key, toList_key] at texts
  obtain ⟨names, rest⟩ := append_inj_of_first_mark noBar noBar' texts
  obtain ⟨services, servers⟩ := append_inj_of_last_mark behind behind' rest
  exact ⟨String.toList_inj.1 names, String.toList_inj.1 services, String.toList_inj.1 servers⟩

/-- Names that hold bars would share their keys. -/
example : Cache.key "a|b" "c" none = Cache.key "a" "b|c" none := by decide

namespace ResolveOptions

/-- The text of the server that is asked first is not blank. -/
theorem primaryText_ne_some_empty (options : ResolveOptions) : options.primaryText ≠ some "" := by
  intro is
  have kept := (Option.filter_eq_some_iff.1 is).2
  exact absurd kept (by decide)

theorem trim_of_primaryText {options : ResolveOptions} {text : String}
    (is : options.primaryText = some text) : trim text.toList = text.toList := by
  obtain ⟨given, _, rfl⟩ := Option.map_eq_some_iff.1 (Option.filter_eq_some_iff.1 is).1
  rw [toList_trimmed, trim_trim]

/-- No server is told from every server by the text that stands for it in a key. -/
theorem primaryText_eq_of_getD {options options' : ResolveOptions}
    (same : options.primaryText.getD "" = options'.primaryText.getD "") :
    options.primaryText = options'.primaryText := by
  have notBlank := options.primaryText_ne_some_empty
  have notBlank' := options'.primaryText_ne_some_empty
  cases first : options.primaryText <;> cases second : options'.primaryText <;> simp_all [eq_comm]

end ResolveOptions

/-! ### Names and servers hold no bar -/

namespace Locator

theorem bar_notMem_of_checkHost {name : String} (accepted : checkHost name = .ok ()) :
    '|' ∉ name.toList := by
  obtain ⟨url, host, read, has, same⟩ := checkHost_eq_ok_iff.1 accepted
  intro member
  have lowered : '|' ∈ lowerAscii name.toList := List.mem_map.2 ⟨'|', member, by decide⟩
  rw [← same] at lowered
  obtain ⟨c, inside, isBar⟩ := List.mem_map.1 lowered
  have bar : c = '|' := eq_of_toLower_eq (by decide) isBar
  exact Url.bar_notMem_of_hostText? read has (bar ▸ inside)

/-- **A name holds no bar.** -/
theorem bar_notMem_of_dnsName {locator : Locator} {participant : Participant} {zone name : String}
    (named : locator.dnsName participant zone = .ok name) : '|' ∉ name.toList :=
  bar_notMem_of_checkHost (dnsName_eq_ok_iff.1 named).2.2

/-- **The text of the server that is asked first holds no bar.** -/
theorem bar_notMem_of_serverList {locator : Locator} {options : ResolveOptions}
    {servers : List Endpoint} (listed : locator.serverList options.primaryText = .ok servers) :
    '|' ∉ (options.primaryText.getD "").toList := by
  cases is : options.primaryText with
  | none => exact List.not_mem_nil
  | some text =>
    rw [is] at listed
    obtain ⟨server, read, _⟩ := bind_eq_ok_iff.1 listed
    intro member
    have isAddress := Endpoint.isAddressChar_of_ofText? (readServer_eq_ok_iff.1 read) '|'
      (by rw [ResolveOptions.trim_of_primaryText is]; exact member)
    exact absurd isAddress (by decide)

/-- **Calls share a key exactly if they ask for the same.** Two calls, of any two locators, that get as
far as looking up a key look up the same one exactly if name, service and the server that is asked first
are the same, whatever the services are called. -/
theorem key_eq_iff_of_asks {locator locator' : Locator} {participant participant' : Participant}
    {zone zone' name name' service service' : String} {options options' : ResolveOptions}
    {servers servers' : List Endpoint}
    (asks : locator.Asks participant zone options name service servers)
    (asks' : locator'.Asks participant' zone' options' name' service' servers') :
    Cache.key name service options.primaryText = Cache.key name' service' options'.primaryText ↔
      name = name' ∧ service = service' ∧ options.primaryText = options'.primaryText := by
  constructor
  · intro same
    obtain ⟨names, services, texts⟩ := Cache.key_inj (bar_notMem_of_dnsName asks.named)
      (bar_notMem_of_dnsName asks'.named) (bar_notMem_of_serverList asks.listed)
      (bar_notMem_of_serverList asks'.listed) same
    exact ⟨names, services, ResolveOptions.primaryText_eq_of_getD texts⟩
  · rintro ⟨names, services, texts⟩
    rw [names, services, texts]

/-- A service whose name ends like a key with a server has keys of its own. -/
theorem key_ne_of_serviceWithBar : ∃ name servers servers',
    ({ Locator.ofPreset .esens with service := some "s|::1" } : Locator).Asks (.ofValue "abc")
        "example.org" .standard name "s|::1" servers ∧
      ({ Locator.ofPreset .esens with service := some "s" } : Locator).Asks (.ofValue "abc")
        "example.org" { useNaptr := true, primary := some " ::1 " } name "s" servers' ∧
      Cache.key name "s|::1" none ≠ Cache.key name "s" (some "::1") := by
  have named : (Locator.ofPreset .esens).dnsName (.ofValue "abc") "example.org" =
      .ok (String.ofList ((Naming.label (Locator.ofPreset .esens).lowercase "abc").toList ++
        '.' :: "example.org".toList)) :=
    dnsName_of_isVerbatim rfl (by decide) (by decide) (by decide)
  have asks : ({ Locator.ofPreset .esens with service := some "s|::1" } : Locator).Asks
      (.ofValue "abc") "example.org" .standard _ "s|::1" [] := ⟨named, rfl, rfl⟩
  have asks' : ({ Locator.ofPreset .esens with service := some "s" } : Locator).Asks
      (.ofValue "abc") "example.org" { useNaptr := true, primary := some " ::1 " } _ "s" _ :=
    ⟨named, rfl, rfl⟩
  refine ⟨_, _, _, asks, asks', fun same => ?_⟩
  exact absurd ((key_eq_iff_of_asks asks asks').1 same).2.1 (by decide)

end Locator

end ServiceLocation
