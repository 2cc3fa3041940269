import ServiceLocation.Proofs.Locator.BaseUrl
import ServiceLocation.Proofs.Locator.Name

/-!
**Locators that resolve no names.**

Without a service a participant is located by its name alone, and the base URL is made of the name.
Prefix, scheme and zone may be any text, so the name is pasted into a URL before anything is known of
it; that it is the host of that URL is checked once.

* `printable_of_isHostChar`: what a host may hold is printable and no mark of a URL;
* `baseUrl_of_checkHost`: so **the base URL of a name that passed the check is `http://` and the
  name**;
* `serviceUrl_of_noService`: **a participant is located exactly if it has a name, at the host of that
  name, under the zone, and nothing is asked.**
-/

namespace ServiceLocation.Locator

open ServiceLocation.Text ServiceLocation.Naptr

/-- What a host may hold is printable and no mark of a URL. -/
theorem printable_of_isHostChar {c : Char} (allowed : Idna.IsHostChar c) :
    0x20 < c.toNat ∧ c.toNat < 0x7F ∧ c ∉ ['/', '?', '#', '@', ':', '\\', '%', '|'] :=
  Idna.of_isHostChar (P := fun c => 0x20 < c.toNat ∧ c.toNat < 0x7F ∧
    c ∉ ['/', '?', '#', '@', ':', '\\', '%', '|']) allowed (by decide)

/-- **The base URL of an accepted name is that of its host**, with nothing dropped. -/
theorem baseUrl_of_checkHost {name : String} (long : 44 < name.toList.length)
    (accepted : checkHost name = .ok ()) : baseUrl name = .ok (hostUrl name) := by
  have marks : ':' ∉ name.toList ∧ '/' ∉ name.toList := by
    have allowed := isHostChar_of_checkHost long accepted
    exact ⟨fun member => (printable_of_isHostChar (allowed _ member)).2.2 (by decide),
      fun member => (printable_of_isHostChar (allowed _ member)).2.2 (by decide)⟩
  have nonempty : name.toList ≠ [] := List.length_pos_iff.1 (by omega)
  have noScheme : ¬holds "://".toList name.toList = true := by
    rw [holds_iff]
    exact fun part => marks.1 (part.subset (by decide))
  have base : dropFinal '/' (withScheme name.toList) = (hostUrl name).toList := by
    rw [withScheme, if_neg noScheme, dropFinal_append nonempty, toList_hostUrl,
      dropFinal_of_getLast?_ne fun last => marks.2 (List.mem_of_getLast? last)]
  exact baseUrl_eq_ok_iff.2 ⟨base.symm, _, _, parse_of_checkHost long accepted,
    Url.hostText?_atHost .., mt List.map_eq_nil_iff.1 nonempty⟩

section

variable {locator : Locator} {network : Network} {participant : Participant} {zone : String}
  {memory : Memory}

/-- A locator without a service answers with the name. -/
theorem resolve_of_noService (noService : locator.service = none) :
    locator.resolve network participant zone memory = (locator.dnsName participant zone, memory) := by
  unfold resolve resolveWith target?
  rw [noService]
  cases locator.dnsName participant zone <;> rfl

/-- The name of a participant passed the check, and its label makes it long. -/
theorem accepted_of_dnsName {name : String} (named : locator.dnsName participant zone = .ok name) :
    44 < name.toList.length ∧ checkHost name = .ok () := by
  obtain ⟨_, written, accepted⟩ := dnsName_eq_ok_iff.1 named
  have own : Naming.labelLength ≤ (ownPart locator participant).length := le_length_ownPart
  have label : Naming.labelLength = 52 := rfl
  refine ⟨?_, accepted⟩
  rw [written, List.length_append]
  omega

/-- **Without a service a participant is located exactly if it has a name**: at `http://` and the
name, where the name is all of the host, holds no mark of a URL and lies under the zone. Its errors
are those of the name, and nothing is asked or remembered. -/
theorem serviceUrl_of_noService (noService : locator.service = none) (network : Network)
    (participant : Participant) (zone : String) (memory : Memory) :
    (locator.serviceUrl network participant zone memory).2 = memory ∧
      (∀ url, (locator.serviceUrl network participant zone memory).1 = .ok url ↔
        ∃ name, locator.dnsName participant zone = .ok name ∧ url = "http://" ++ name) ∧
      (∀ error, (locator.serviceUrl network participant zone memory).1 = .error error ↔
        locator.dnsName participant zone = .error error) ∧
      ∀ name, locator.dnsName participant zone = .ok name →
        (∃ url, Url.parse ("http://" ++ name).toList = .ok url ∧
          url.hostText? = some (lowerAscii name.toList)) ∧
        (∀ c ∈ name.toList,
          0x20 < c.toNat ∧ c.toNat < 0x7F ∧ c ∉ ['/', '?', '#', '@', ':', '\\', '%', '|']) ∧
        '.' :: dropFinal '.' (trim zone.toList) <:+ name.toList := by
  unfold serviceUrl
  rw [resolve_of_noService noService]
  refine ⟨rfl, fun url => ?_, fun error => ?_, fun name named => ⟨?_, ?_, ?_⟩⟩
  · cases named : locator.dnsName participant zone with
    | error fault => simp [Except.bind]
    | ok name =>
      obtain ⟨long, accepted⟩ := accepted_of_dnsName named
      show baseUrl name = .ok url ↔ _
      rw [baseUrl_of_checkHost long accepted]
      simp [hostUrl, eq_comm]
  · cases named : locator.dnsName participant zone with
    | error fault => rfl
    | ok name =>
      obtain ⟨long, accepted⟩ := accepted_of_dnsName named
      show baseUrl name = .error error ↔ _
      rw [baseUrl_of_checkHost long accepted]
      simp
  · obtain ⟨long, accepted⟩ := accepted_of_dnsName named
    exact ⟨_, parse_of_checkHost long accepted, Url.hostText?_atHost ..⟩
  · obtain ⟨long, accepted⟩ := accepted_of_dnsName named
    exact fun c member => printable_of_isHostChar (isHostChar_of_checkHost long accepted c member)
  · rw [(dnsName_eq_ok_iff.1 named).2.1]
    exact List.suffix_append _ _

theorem serviceUrl_of_preset : ∃ name,
    (Locator.ofPreset .peppol).dnsName (.ofValue "abc") "example.org." = .ok name ∧
      (Locator.ofPreset .peppol).serviceUrl .empty (.ofValue "abc") "example.org." .empty =
        (.ok ("http://" ++ name), .empty) := by
  have named : (Locator.ofPreset .peppol).dnsName (.ofValue "abc") "example.org." =
      .ok (String.ofList ((Naming.label (Locator.ofPreset .peppol).lowercase "abc").toList ++
        '.' :: "example.org".toList)) :=
    dnsName_of_isVerbatim rfl (by decide) (by decide) (by decide)
  have noService : (Locator.ofPreset .peppol).service = none := rfl
  obtain ⟨kept, located, _⟩ :=
    serviceUrl_of_noService noService .empty (.ofValue "abc") "example.org." .empty
  exact ⟨_, named, Prod.ext ((located _).2 ⟨_, named, rfl⟩) kept⟩

end

end ServiceLocation.Locator
